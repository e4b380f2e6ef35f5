import Cmon.Library.Run
import Cmon.Tapi.Line

/-!
# TAPI — the manager

`CTafManager`: the lines of the TAPI devices, what its thread makes of the messages it gets, and
what the observers of the plug-in are told.  The line objects are under their addresses, because
a message names a line by its address, and an object whose permanent id is in use already never
gets into the map of the lines.

* `TafManager.Observed`: what is told of a call is episodes of the call, and the open ones are
  those of the reported calls in the maps.
* `TafManager.Sound`: this, and that a call is reported by one line of the map.
* `TafManager.Fits`: the messages that keep it, and `TafManager.observed_iff`, that they are all.
-/

namespace Cmon
open Library Library.Episodes

/-- What a device answers when it is added, and what the preferences say about it: its features
are those asked for, its permanent id, it is one of the selected lines, and it can be opened. -/
structure TafDevice where
  accepted : Bool
  permanentId : Nat
  selected : Bool
  opens : Bool
  deriving DecidableEq, Repr

/-- `CTafManager`, with the memory its line objects are in and all that an observer was told. -/
structure TafManager where
  heap : OrderedMap Nat TafLine
  allocated : Nat
  mapLines : OrderedMap Nat Nat
  tapiOk : Bool
  told : List CallEvent

/-- What its thread does next. -/
inductive TapiEvent where
  | init (devices : List TafDevice)
  | create (idx : Nat) (device : TafDevice)
  | remove (idx : Nat)
  | message (address : Nat) (m : LineMessage)
  | shutdown
  deriving DecidableEq, Repr

namespace TafManager

/-- `CTafManager::CTafManager`. -/
def create : TafManager := ⟨.empty, 0, .empty, false, []⟩

/-- `CTafManager::addLine`.  When there is a line with the permanent id, the map keeps it; the
new object is opened all the same. -/
def addLine (s : TafManager) (idx : Nat) (device : TafDevice) : TafManager :=
  let pLine := s.allocated
  let s := { s with allocated := s.allocated + 1 }
  let line := TafLine.create idx
  if device.accepted then
    let line := if device.selected then line.openLine device.opens else line
    { s with
      heap := s.heap.insert pLine line
      mapLines := s.mapLines.insert device.permanentId pLine }
  else s

/-- The first line of the map with the index. -/
def findLine (s : TafManager) (idx : Nat) : Option (Nat × Nat) :=
  s.mapLines.entries.find? fun e => (s.heap.find? e.2).any fun line => line.idx = idx

/-- `CTafManager::removeLine`. -/
def removeLine (s : TafManager) (idx : Nat) : TafManager :=
  match s.findLine idx with
  | none => s
  | some line =>
      { s with heap := s.heap.erase line.2, mapLines := s.mapLines.erase line.1 }

/-- `CTafManager::initTapi`. -/
def initTapi (s : TafManager) (devices : List TafDevice) : TafManager :=
  devices.zipIdx.foldl (fun s d => s.addLine d.2 d.1) { s with tapiOk := true }

/-- `CTafManager::shutdownTapi`. -/
def shutdownTapi (s : TafManager) : TafManager :=
  if s.tapiOk then
    { s with
      heap := s.mapLines.entries.foldl (fun heap line => heap.erase line.2) s.heap
      mapLines := .empty
      tapiOk := false }
  else s

/-- `CTafManager::handleTapiMessages`, a message for a line.  There are none for an object that
was deleted: its line was closed before. -/
def lineMessage (s : TafManager) (address : Nat) (m : LineMessage) : TafManager :=
  match s.heap.find? address with
  | none => s
  | some line =>
      let (line, events) := line.handleMessage m
      { s with
        heap := s.heap.modify address fun _ => line
        told := s.told ++ events.map onTafEvent }

/-- `CTafManager::monitor`. -/
def step (s : TafManager) : TapiEvent → TafManager
  | .init devices => if s.tapiOk then s else s.initTapi devices
  | .create idx device => if s.tapiOk then s.addLine idx device else s
  | .remove idx => if s.tapiOk then s.removeLine idx else s
  | .message address m => if s.tapiOk then s.lineMessage address m else s
  | .shutdown => s.shutdownTapi

/-! ### What is told and what is held -/

/-- A line of the map. -/
def Mapped (s : TafManager) (address : Nat) : Prop :=
  ∃ id, s.mapLines.find? id = some address

/-- A reported call in the map of a line of the map. -/
def Reported (s : TafManager) (h : Nat) : Prop :=
  ∃ address line, s.Mapped address ∧ s.heap.find? address = some line ∧ line.Holds h

/-- What an observer was told of a call is a `newCall`, updates and one `idle`, as often as the
handle was given to a call; and a call was announced and has not ended when it is a reported call
in the map of a line. -/
def Observed (s : TafManager) : Prop :=
  ∀ h, ∃ isOpen, Shape CallEvent.mark isOpen (s.told.filter fun e => e.cid = h) ∧
    (isOpen = true ↔ s.Reported h)

/-- What goes on in any state as it should. -/
structure Sound (s : TafManager) : Prop where
  fresh : ∀ {a line}, s.heap.find? a = some line → a < s.allocated
  mapped : ∀ {id a}, s.mapLines.find? id = some a → ∃ line, s.heap.find? a = some line
  injective : ∀ {id id' a}, s.mapLines.find? id = some a → s.mapLines.find? id' = some a → id = id'
  wellFormed : ∀ {a line}, s.heap.find? a = some line → line.WellFormed
  /-- A line that is not in the map holds no reported call, -/
  known : ∀ {a line h}, s.heap.find? a = some line → line.Holds h → s.Mapped a
  /-- and no two lines hold the same one. -/
  one : ∀ {a a' line line' h}, s.heap.find? a = some line → s.heap.find? a' = some line' →
    line.Holds h → line'.Holds h → a = a'
  observed : s.Observed

/-- The messages that lose no announced call, announce no call twice and none on a line that is
not in the map, and end no call that was not announced. -/
def Fits (s : TafManager) : TapiEvent → Prop
  | .message address m => s.tapiOk = true → ∀ line, s.heap.find? address = some line →
      line.Fits (fun h => s.Mapped address ∧ ¬ s.Reported h) m
  | .remove idx => s.tapiOk = true → ∀ e line, s.findLine idx = some e →
      s.heap.find? e.2 = some line → ∀ h, ¬ line.Holds h
  | .shutdown => s.tapiOk = true → ∀ h, ¬ s.Reported h
  | _ => True

variable {s s' : TafManager} {a h : Nat} {line : TafLine}

theorem observed_iff_follow : s.Observed ↔ ∀ h, ∃ isOpen,
    follow CallEvent.cid CallEvent.mark h false s.told = some isOpen ∧
      (isOpen = true ↔ s.Reported h) :=
  forall_congr' fun _ => exists_congr fun _ => and_congr_left' follow_iff.symm

/-- What is told goes on from what is held. -/
theorem observed_append (hs : s.Observed) {es : List CallEvent} (ht : s'.told = s.told ++ es) :
    s'.Observed ↔ ∀ h isOpen, (isOpen = true ↔ s.Reported h) → ∃ isOpen',
      follow CallEvent.cid CallEvent.mark h isOpen es = some isOpen' ∧
        (isOpen' = true ↔ s'.Reported h) := by
  rw [observed_iff_follow] at hs ⊢
  refine forall_congr' fun h => ?_
  obtain ⟨b, hb, hr⟩ := hs h
  rw [ht, follow_append, hb, Option.bind_some]
  constructor
  · intro hnew isOpen hopen
    rwa [Bool.eq_iff_iff.mpr (hopen.trans hr.symm)]
  · exact fun hall => hall b hr

/-- Nothing is told. -/
theorem observed_quiet (hs : s.Observed) (ht : s'.told = s.told) :
    s'.Observed ↔ ∀ h, s'.Reported h ↔ s.Reported h := by
  have ht' : s'.told = s.told ++ [] := ht.trans (List.append_nil _).symm
  rw [observed_append hs ht']
  refine forall_congr' fun h => ?_
  constructor
  · intro hall
    obtain ⟨b, -, hb⟩ := hs h
    obtain ⟨isOpen, hf, hr⟩ := hall b hb
    rw [← Option.some.inj hf] at hr
    exact hr.symm.trans hb
  · exact fun hiff isOpen hopen => ⟨isOpen, rfl, hopen.trans hiff.symm⟩

/-! ### One line among the others -/

/-- Another line of the map reports the call. -/
def Elsewhere (s : TafManager) (a h : Nat) : Prop :=
  ∃ a' line, a' ≠ a ∧ s.Mapped a' ∧ s.heap.find? a' = some line ∧ line.Holds h

theorem reported_iff (hf : s.heap.find? a = some line) :
    s.Reported h ↔ s.Mapped a ∧ line.Holds h ∨ s.Elsewhere a h := by
  constructor
  · rintro ⟨a', line', hm, hf', hh⟩
    by_cases ha : a' = a
    · subst ha
      rw [Option.some.inj (hf.symm.trans hf')]
      exact .inl ⟨hm, hh⟩
    · exact .inr ⟨a', line', ha, hm, hf', hh⟩
  · rintro (⟨hm, hh⟩ | ⟨a', line', -, hm, hf', hh⟩)
    · exact ⟨a, line, hm, hf, hh⟩
    · exact ⟨a', line', hm, hf', hh⟩

namespace Sound

theorem reported (hs : s.Sound) (hf : s.heap.find? a = some line) (hh : line.Holds h) :
    s.Reported h :=
  ⟨a, line, hs.known hf hh, hf, hh⟩

theorem not_elsewhere (hs : s.Sound) (hf : s.heap.find? a = some line) (hh : line.Holds h) :
    ¬ s.Elsewhere a h := by
  rintro ⟨a', line', hne, -, hf', hh'⟩
  exact hne (hs.one hf' hf hh' hh)

/-- In a line that does not hold the call it makes no difference. -/
theorem reported_iff_elsewhere (hs : s.Sound) (hf : s.heap.find? a = some line) :
    s.Reported h ↔ line.Holds h ∨ s.Elsewhere a h := by
  rw [reported_iff hf]
  exact or_congr_left ⟨And.right, fun hh => ⟨hs.known hf hh, hh⟩⟩

end Sound

/-! ### A message for a line -/

/-- The state after a message for a line. -/
def handled (s : TafManager) (a : Nat) (line' : TafLine) (events : List TafEvent) : TafManager :=
  { s with
    heap := s.heap.modify a fun _ => line'
    told := s.told ++ events.map onTafEvent }

theorem lineMessage_some (hf : s.heap.find? a = some line) (m : LineMessage) :
    s.lineMessage a m = s.handled a (line.handleMessage m).1 (line.handleMessage m).2 := by
  rw [lineMessage, hf]
  rfl

theorem lineMessage_none (hf : s.heap.find? a = none) (m : LineMessage) :
    s.lineMessage a m = s := by
  rw [lineMessage, hf]

section Handled
variable {line' : TafLine} {events : List TafEvent}

theorem heap_handled_self (hf : s.heap.find? a = some line) :
    (s.handled a line' events).heap.find? a = some line' := by
  simp [handled, hf]

theorem heap_handled_of_ne {a' : Nat} (ha : a' ≠ a) :
    (s.handled a line' events).heap.find? a' = s.heap.find? a' :=
  OrderedMap.find?_modify_of_ne _ ha _

theorem elsewhere_handled : (s.handled a line' events).Elsewhere a h ↔ s.Elsewhere a h := by
  refine exists_congr fun a' => exists_congr fun line => and_congr_right fun ha => ?_
  rw [heap_handled_of_ne ha]
  exact Iff.rfl

theorem reported_handled (hf : s.heap.find? a = some line) :
    (s.handled a line' events).Reported h ↔ s.Mapped a ∧ line'.Holds h ∨ s.Elsewhere a h := by
  rw [reported_iff (heap_handled_self hf), elsewhere_handled]
  exact Iff.rfl

/-- A line keeps the state sound when the calls it comes to hold are its own, and what it says is
right. -/
theorem Sound.handled (hs : s.Sound) (hf : s.heap.find? a = some line) (hw : line'.WellFormed)
    (hHolds : ∀ j, line'.Holds j → line.Holds j ∨ s.Mapped a ∧ ¬ s.Reported j)
    (hobs : (s.handled a line' events).Observed) : (s.handled a line' events).Sound := by
  -- what is new at `a` is reported nowhere else
  have hother : ∀ {a' line₀ j}, a' ≠ a → s.heap.find? a' = some line₀ → line₀.Holds j →
      ¬ line'.Holds j := by
    intro a' line₀ j ha hf' hh hh'
    rcases hHolds j hh' with hh' | ⟨-, hr⟩
    · exact ha (hs.one hf' hf hh hh')
    · exact hr (hs.reported hf' hh)
  refine ⟨fun {a' line₀} hf' => ?_, fun {id a'} hm => ?_, hs.injective, fun {a' line₀} hf' => ?_,
    fun {a' line₀ j} hf' hh => ?_, fun {a₁ a₂ line₁ line₂ j} h₁ h₂ hh₁ hh₂ => ?_, hobs⟩
  · by_cases ha : a' = a
    · subst ha
      exact hs.fresh hf
    · exact hs.fresh ((heap_handled_of_ne ha).symm.trans hf')
  · by_cases ha : a' = a
    · subst ha
      exact ⟨line', heap_handled_self hf⟩
    · rw [heap_handled_of_ne ha]
      exact hs.mapped hm
  · by_cases ha : a' = a
    · subst ha
      rwa [← Option.some.inj ((heap_handled_self hf).symm.trans hf')]
    · exact hs.wellFormed ((heap_handled_of_ne ha).symm.trans hf')
  · by_cases ha : a' = a
    · subst ha
      rw [← Option.some.inj ((heap_handled_self hf).symm.trans hf')] at hh
      exact (hHolds j hh).elim (hs.known hf) And.left
    · exact hs.known ((heap_handled_of_ne ha).symm.trans hf') hh
  · by_cases ha₁ : a₁ = a <;> by_cases ha₂ : a₂ = a
    · rw [ha₁, ha₂]
    · subst ha₁
      rw [← Option.some.inj ((heap_handled_self hf).symm.trans h₁)] at hh₁
      exact absurd hh₁ (hother ha₂ ((heap_handled_of_ne ha₂).symm.trans h₂) hh₂)
    · subst ha₂
      rw [← Option.some.inj ((heap_handled_self hf).symm.trans h₂)] at hh₂
      exact absurd hh₂ (hother ha₁ ((heap_handled_of_ne ha₁).symm.trans h₁) hh₁)
    · rw [heap_handled_of_ne ha₁] at h₁
      rw [heap_handled_of_ne ha₂] at h₂
      exact hs.one h₁ h₂ hh₁ hh₂

/-- What a line says of the calls it holds. -/
theorem follow_updates (hs : s.Sound) (hf : s.heap.find? a = some line)
    (he : ∀ e ∈ events, line.Holds e.call.id ∧ e.mark = .updates) {isOpen : Bool}
    (hopen : isOpen = true ↔ s.Reported h) :
    follow CallEvent.cid CallEvent.mark h isOpen (events.map onTafEvent) = some isOpen := by
  refine follow_of_updates fun e hmem hcid => ?_
  obtain ⟨ev, hev, rfl⟩ := List.mem_map.mp hmem
  obtain ⟨hh, hmark⟩ := he ev hev
  rw [onTafEvent_cid] at hcid
  rw [hcid] at hh
  exact ⟨hopen.mpr (hs.reported hf hh), (onTafEvent_mark ev).trans hmark⟩

/-- One event of a line. -/
theorem follow_event {e : TafEvent} {isOpen : Bool} :
    follow CallEvent.cid CallEvent.mark h isOpen [onTafEvent e] =
      if e.call.id = h then e.mark.apply isOpen else some isOpen := by
  rw [follow_cons, turn, onTafEvent_cid, onTafEvent_mark]
  split
  · exact Option.bind_fun_some _
  · rfl

/-- **A message that fits keeps the state sound.** -/
theorem Sound.lineMessage (hs : s.Sound) (hf : s.heap.find? a = some line) {m : LineMessage}
    (hacts : line.Acts m line' events) (hw : line'.WellFormed)
    (hfits : line.Fits (fun h => s.Mapped a ∧ ¬ s.Reported h) m) :
    (s.handled a line' events).Sound := by
  cases hacts with
  | closed hopen hHolds =>
      refine hs.handled hf hw (fun j hj => absurd hj (hHolds j)) ?_
      rw [observed_quiet hs.observed (List.append_nil _)]
      intro h
      rw [reported_handled hf, hs.reported_iff_elsewhere hf]
      refine or_congr_left (iff_of_false ?_ (hfits hopen h))
      exact fun hh => hHolds h hh.2
  | kept _ hHolds he =>
      refine hs.handled hf hw (fun j hj => .inl ((hHolds j).mp hj)) ?_
      rw [observed_append hs.observed rfl]
      intro h isOpen hopen
      refine ⟨isOpen, follow_updates hs hf he hopen, hopen.trans ?_⟩
      rw [reported_handled hf, hHolds, reported_iff hf]
  | announced hfind hr hst ha hHolds he hmark =>
      rename_i h₀ state call e
      obtain ⟨hmapped, hnew⟩ := (hfits call hfind hr).2 ha
      refine hs.handled hf hw (fun j hj => ?_) ?_
      · rcases (hHolds j).mp hj with rfl | hj
        · exact .inr ⟨hmapped, hnew⟩
        · exact .inl hj
      · rw [observed_append hs.observed rfl]
        intro h isOpen hopen
        rw [List.map_singleton, follow_event, he, hmark]
        by_cases hh : h₀ = h
        · subst hh
          obtain rfl : isOpen = false := by simpa using fun hi => hnew (hopen.mp hi)
          refine ⟨true, if_pos rfl, iff_of_true rfl ?_⟩
          exact (reported_handled hf).mpr (.inl ⟨hmapped, (hHolds h₀).mpr (.inl rfl)⟩)
        · refine ⟨isOpen, if_neg hh, hopen.trans ?_⟩
          rw [reported_handled hf, hHolds, reported_iff hf, or_iff_right (Ne.symm hh)]
  | ended hh hHolds hu he hmark =>
      rename_i h₀ updates e
      refine hs.handled hf hw (fun j hj => .inl ((hHolds j).mp hj).2) ?_
      rw [observed_append hs.observed rfl]
      intro h isOpen hopen
      rw [List.map_append, follow_append, List.map_singleton,
        follow_updates hs hf (fun e hmem => ?_) hopen, Option.bind_some, follow_event, he, hmark]
      · by_cases hhh : h₀ = h
        · subst hhh
          obtain rfl : isOpen = true := hopen.mpr (hs.reported hf hh)
          refine ⟨false, if_pos rfl, iff_of_false Bool.false_ne_true fun hrep => ?_⟩
          rcases (reported_handled hf).mp hrep with ⟨-, hline⟩ | helse
          · exact ((hHolds h₀).mp hline).1 rfl
          · exact hs.not_elsewhere hf hh helse
        · refine ⟨isOpen, if_neg hhh, hopen.trans ?_⟩
          rw [reported_handled hf, hHolds, reported_iff hf, and_iff_right (Ne.symm hhh)]
      · rw [(hu e hmem).1]
        exact ⟨hh, (hu e hmem).2⟩
  | stray hfind hr => exact absurd rfl (hfits _ hfind hr).1

/-- **A message after which the observers are right fits.** -/
theorem Sound.fits_of_handled (hs : s.Sound) (hf : s.heap.find? a = some line) {m : LineMessage}
    (hacts : line.Acts m line' events) (hobs : (s.handled a line' events).Observed) :
    line.Fits (fun h => s.Mapped a ∧ ¬ s.Reported h) m := by
  cases hacts with
  | closed hopen hHolds =>
      -- a call the line held is told to be there still, and is nowhere
      intro _ h hh
      rw [observed_quiet hs.observed (List.append_nil _)] at hobs
      rcases (reported_handled hf).mp ((hobs h).mpr (hs.reported hf hh)) with ⟨-, hh'⟩ | helse
      · exact hHolds h hh'
      · exact hs.not_elsewhere hf hh helse
  | kept hfits => exact hfits _
  | announced hfind hr hst ha hHolds he hmark =>
      rename_i h₀ state call e
      intro call' hfind' _
      refine ⟨hst, fun _ => ?_⟩
      rw [observed_append hs.observed rfl] at hobs
      obtain ⟨b, -, hb⟩ := observed_iff_follow.mp hs.observed h₀
      obtain ⟨isOpen', hfollow, hopen'⟩ := hobs h₀ b hb
      rw [List.map_singleton, follow_event, he, hmark, if_pos rfl] at hfollow
      cases b with
      | true => cases hfollow
      | false =>
          have hnew : ¬ s.Reported h₀ := fun hrep => Bool.false_ne_true (hb.mpr hrep)
          obtain rfl := Option.some.inj hfollow
          rcases (reported_handled hf).mp (hopen'.mp rfl) with ⟨hmapped, -⟩ | helse
          · exact ⟨hmapped, hnew⟩
          · exact absurd ((reported_iff hf).mpr (.inr helse)) hnew
  | ended hh =>
      intro call hfind hr
      rw [TafLine.holds_iff hfind, hr] at hh
      cases hh
  | stray hfind hr hHolds he hmark =>
      -- the end is told of another line's call, which goes on there
      rename_i h₀ call e
      rw [observed_append hs.observed rfl] at hobs
      obtain ⟨b, -, hb⟩ := observed_iff_follow.mp hs.observed h₀
      obtain ⟨isOpen', hfollow, hopen'⟩ := hobs h₀ b hb
      rw [List.map_singleton, follow_event, he, hmark, if_pos rfl] at hfollow
      cases b with
      | false => cases hfollow
      | true =>
          obtain rfl := Option.some.inj hfollow
          have hrep : (s.handled a line' [e]).Reported h₀ := by
            rw [reported_handled hf, hHolds]
            exact (reported_iff hf).mp (hb.mp rfl)
          cases hopen'.mpr hrep

end Handled

/-! ### Lines that come and go -/

theorem sound_create : create.Sound where
  fresh := nofun
  mapped := nofun
  injective := nofun
  wellFormed := nofun
  known := nofun
  one := nofun
  observed := fun _ => ⟨false, shape_nil, iff_of_false Bool.false_ne_true nofun⟩

/-- A new object holds no call. -/
theorem not_holds_opened (idx : Nat) (device : TafDevice) :
    ¬ (if device.selected then (TafLine.create idx).openLine device.opens
      else TafLine.create idx).Holds h := by
  split
  · exact TafLine.not_holds_of_none rfl
  · exact TafLine.not_holds_create idx

theorem wellFormed_opened (idx : Nat) (device : TafDevice) :
    (if device.selected then (TafLine.create idx).openLine device.opens
      else TafLine.create idx).WellFormed := by
  split <;> exact TafLine.wellFormed_create idx

/-- The state with a new object, which holds no call. -/
theorem Sound.insert (hs : s.Sound) (id : Nat) (hw : line.WellFormed) (hq : ∀ h, ¬ line.Holds h) :
    ({ s with
      allocated := s.allocated + 1
      heap := s.heap.insert s.allocated line
      mapLines := s.mapLines.insert id s.allocated } : TafManager).Sound := by
  have hnew : s.heap.find? s.allocated = none := by
    cases hf : s.heap.find? s.allocated with
    | none => rfl
    | some line => exact absurd (hs.fresh hf) (lt_irrefl _)
  -- a line that holds a call was there before
  have hold : ∀ {a line' h}, (s.heap.insert s.allocated line).find? a = some line' →
      line'.Holds h → s.heap.find? a = some line' := by
    intro a line' h hf hh
    rcases OrderedMap.of_find?_insert hf with ⟨-, rfl⟩ | hf
    · exact absurd hh (hq h)
    · exact hf
  have hmapped : ∀ {id' a}, s.mapLines.find? id' = some a → a < s.allocated := by
    intro id' a hm
    obtain ⟨line', hf⟩ := hs.mapped hm
    exact hs.fresh hf
  refine ⟨fun hf => ?_, fun hm => ?_, fun h₁ h₂ => ?_, fun hf => ?_, fun hf hh => ?_,
    fun h₁ h₂ hh₁ hh₂ => hs.one (hold h₁ hh₁) (hold h₂ hh₂) hh₁ hh₂,
    (observed_quiet hs.observed (by rfl)).mpr fun h => ⟨?_, ?_⟩⟩
  · rcases OrderedMap.of_find?_insert hf with ⟨rfl, -⟩ | hf
    · exact Nat.lt_succ_self _
    · exact (hs.fresh hf).trans (Nat.lt_succ_self _)
  · rcases OrderedMap.of_find?_insert hm with ⟨-, rfl⟩ | hm
    · exact ⟨line, by simp [hnew]⟩
    · obtain ⟨line', hf⟩ := hs.mapped hm
      exact ⟨line', OrderedMap.find?_insert_of_some hf _ _⟩
  · rcases OrderedMap.of_find?_insert h₁ with ⟨hid₁, ha⟩ | h₁' <;>
      rcases OrderedMap.of_find?_insert h₂ with ⟨hid₂, ha'⟩ | h₂'
    · rw [hid₁, hid₂]
    · exact absurd (hmapped h₂') ha.not_lt
    · exact absurd (hmapped h₁') ha'.not_lt
    · exact hs.injective h₁' h₂'
  · rcases OrderedMap.of_find?_insert hf with ⟨-, rfl⟩ | hf
    · exact hw
    · exact hs.wellFormed hf
  · obtain ⟨id', hm⟩ := hs.known (hold hf hh) hh
    exact ⟨id', OrderedMap.find?_insert_of_some hm _ _⟩
  · rintro ⟨a, line', -, hf, hh⟩
    exact hs.reported (hold hf hh) hh
  · rintro ⟨a, line', ⟨id', hm⟩, hf, hh⟩
    exact ⟨a, line', ⟨id', OrderedMap.find?_insert_of_some hm _ _⟩,
      OrderedMap.find?_insert_of_some hf _ _, hh⟩

theorem Sound.addLine (hs : s.Sound) (idx : Nat) (device : TafDevice) :
    (s.addLine idx device).Sound := by
  rw [TafManager.addLine]
  dsimp only
  split
  · exact hs.insert device.permanentId (wellFormed_opened idx device) fun h =>
      not_holds_opened idx device
  · exact ⟨fun hf => (hs.fresh hf).trans (Nat.lt_succ_self _), hs.mapped, hs.injective,
      hs.wellFormed, hs.known, hs.one, hs.observed⟩

theorem Sound.initTapi (hs : s.Sound) (devices : List TafDevice) :
    (s.initTapi devices).Sound := by
  rw [TafManager.initTapi]
  have hs' : ({ s with tapiOk := true } : TafManager).Sound :=
    ⟨hs.fresh, hs.mapped, hs.injective, hs.wellFormed, hs.known, hs.one, hs.observed⟩
  generalize ({ s with tapiOk := true } : TafManager) = s at hs'
  induction devices.zipIdx generalizing s with
  | nil => exact hs'
  | cons d ds ih => exact ih (s.addLine d.2 d.1) (hs'.addLine d.2 d.1)

theorem findLine_some {idx : Nat} {e : Nat × Nat} (h : s.findLine idx = some e) :
    s.mapLines.find? e.1 = some e.2 :=
  OrderedMap.mem_entries.mp (List.mem_of_find?_eq_some h)

/-- The state without the object at `a`. -/
def removed (s : TafManager) (id a : Nat) : TafManager :=
  { s with heap := s.heap.erase a, mapLines := s.mapLines.erase id }

theorem Sound.mapped_removed (hs : s.Sound) {id a' : Nat} (hm : s.mapLines.find? id = some a) :
    (s.removed id a).Mapped a' ↔ a' ≠ a ∧ s.Mapped a' := by
  constructor
  · rintro ⟨id', hfind⟩
    obtain ⟨hne, hm'⟩ := OrderedMap.of_find?_erase hfind
    refine ⟨fun ha => ?_, id', hm'⟩
    exact hne (hs.injective hm' (ha ▸ hm))
  · rintro ⟨hne, id', hm'⟩
    refine ⟨id', (OrderedMap.find?_erase_of_ne _ ?_).trans hm'⟩
    rintro rfl
    exact hne (Option.some.inj (hm'.symm.trans hm))

theorem Sound.reported_removed (hs : s.Sound) {id : Nat} (hm : s.mapLines.find? id = some a) :
    (s.removed id a).Reported h ↔ s.Elsewhere a h := by
  refine exists_congr fun a' => exists_congr fun line' => ?_
  rw [hs.mapped_removed hm, and_assoc]
  refine and_congr_right fun hne => ?_
  rw [removed, OrderedMap.find?_erase_of_ne _ hne]

/-- A line is removed and nobody is told: the observers are right when it reports no call. -/
theorem Sound.observed_removed (hs : s.Sound) {id : Nat} (hm : s.mapLines.find? id = some a)
    (hf : s.heap.find? a = some line) : (s.removed id a).Observed ↔ ∀ h, ¬ line.Holds h := by
  rw [observed_quiet hs.observed (by rfl)]
  refine forall_congr' fun h => ?_
  rw [hs.reported_removed hm, hs.reported_iff_elsewhere hf]
  constructor
  · exact fun hiff hh => hs.not_elsewhere hf hh (hiff.mpr (.inl hh))
  · exact fun hh => (or_iff_right hh).symm

theorem Sound.removed (hs : s.Sound) {id : Nat} (hm : s.mapLines.find? id = some a)
    (hobs : (s.removed id a).Observed) : (s.removed id a).Sound where
  fresh hf := hs.fresh (OrderedMap.of_find?_erase hf).2
  mapped hm' := by
    obtain ⟨hne, hmapped⟩ := (hs.mapped_removed hm).mp ⟨_, hm'⟩
    obtain ⟨line, hf⟩ := hs.mapped (OrderedMap.of_find?_erase hm').2
    exact ⟨line, (OrderedMap.find?_erase_of_ne _ hne).trans hf⟩
  injective h₁ h₂ := hs.injective (OrderedMap.of_find?_erase h₁).2 (OrderedMap.of_find?_erase h₂).2
  wellFormed hf := hs.wellFormed (OrderedMap.of_find?_erase hf).2
  known hf hh := by
    obtain ⟨hne, hf⟩ := OrderedMap.of_find?_erase hf
    exact (hs.mapped_removed hm).mpr ⟨hne, hs.known hf hh⟩
  one h₁ h₂ := hs.one (OrderedMap.of_find?_erase h₁).2 (OrderedMap.of_find?_erase h₂).2
  observed := hobs

/-! ### The end of the thread -/

/-- The objects that are left are not those of the list. -/
theorem find?_erases {es : List (Nat × Nat)} {heap : OrderedMap Nat TafLine} :
    (es.foldl (fun heap e => heap.erase e.2) heap).find? a = some line ↔
      (∀ e ∈ es, e.2 ≠ a) ∧ heap.find? a = some line := by
  induction es generalizing heap with
  | nil => exact (and_iff_right fun _ he => absurd he List.not_mem_nil).symm
  | cons e es ih =>
      rw [List.foldl_cons, ih, List.forall_mem_cons]
      constructor
      · rintro ⟨hes, hf⟩
        obtain ⟨hne, hf⟩ := OrderedMap.of_find?_erase hf
        exact ⟨⟨hne.symm, hes⟩, hf⟩
      · rintro ⟨⟨hne, hes⟩, hf⟩
        exact ⟨hes, (OrderedMap.find?_erase_of_ne _ hne.symm).trans hf⟩

theorem not_reported_shutdown (hok : s.tapiOk = true) : ¬ s.shutdownTapi.Reported h := by
  rw [shutdownTapi, if_pos hok]
  rintro ⟨a, line, ⟨id, hm⟩, -⟩
  cases hm

theorem Sound.observed_shutdown (hs : s.Sound) (hok : s.tapiOk = true) :
    s.shutdownTapi.Observed ↔ ∀ h, ¬ s.Reported h := by
  have htold : s.shutdownTapi.told = s.told := by rw [shutdownTapi, if_pos hok]
  rw [observed_quiet hs.observed htold]
  exact forall_congr' fun h => iff_comm.trans (iff_false_right (not_reported_shutdown hok))

theorem Sound.shutdown (hs : s.Sound) (hok : s.tapiOk = true)
    (hobs : s.shutdownTapi.Observed) : s.shutdownTapi.Sound := by
  rw [shutdownTapi, if_pos hok] at hobs ⊢
  -- a line that holds a call was in the map
  have hno : ∀ {a line h},
      (s.mapLines.entries.foldl (fun heap e => heap.erase e.2) s.heap).find? a = some line →
        ¬ line.Holds h := by
    intro a line h hf hh
    obtain ⟨hne, hf⟩ := find?_erases.mp hf
    obtain ⟨id, hm⟩ := hs.known hf hh
    exact hne (id, a) (OrderedMap.mem_entries.mpr hm) rfl
  exact ⟨fun hf => hs.fresh (find?_erases.mp hf).2, nofun, nofun,
    fun hf => hs.wellFormed (find?_erases.mp hf).2, fun hf hh => absurd hh (hno hf),
    fun hf _ hh _ => absurd hh (hno hf), hobs⟩

/-! ### Every run -/

/-- A step that fits keeps the state sound. -/
theorem Sound.step (hs : s.Sound) {ev : TapiEvent} (hfits : s.Fits ev) : (s.step ev).Sound := by
  cases ev with
  | init devices =>
      rw [TafManager.step]
      split
      · exact hs
      · exact hs.initTapi devices
  | create idx device =>
      rw [TafManager.step]
      split
      · exact hs.addLine idx device
      · exact hs
  | remove idx =>
      rw [TafManager.step, removeLine]
      split
      · next hok =>
        cases hfind : s.findLine idx with
        | none => exact hs
        | some e =>
            have hm := findLine_some hfind
            obtain ⟨line, hf⟩ := hs.mapped hm
            exact hs.removed hm ((hs.observed_removed hm hf).mpr (hfits hok e line hfind hf))
      · exact hs
  | message address m =>
      rw [TafManager.step]
      split
      · next hok =>
        cases hf : s.heap.find? address with
        | none => rwa [lineMessage_none hf]
        | some line =>
            have hw := hs.wellFormed hf
            rw [lineMessage_some hf]
            exact hs.lineMessage hf (TafLine.handleMessage_acts hw m)
              (TafLine.handleMessage_wellFormed hw m) (hfits hok line hf)
      · exact hs
  | shutdown =>
      by_cases hok : s.tapiOk = true
      · exact hs.shutdown hok ((hs.observed_shutdown hok).mpr (hfits hok))
      · rwa [TafManager.step, shutdownTapi, if_neg hok]

/-- A step after which the observers are right fits. -/
theorem Sound.fits_of_observed (hs : s.Sound) {ev : TapiEvent} (hobs : (s.step ev).Observed) :
    s.Fits ev := by
  cases ev with
  | init devices => trivial
  | create idx device => trivial
  | remove idx =>
      intro hok e line hfind hf
      rw [TafManager.step, if_pos hok, removeLine, hfind] at hobs
      exact (hs.observed_removed (findLine_some hfind) hf).mp hobs
  | message address m =>
      intro hok line hf
      rw [TafManager.step, if_pos hok, lineMessage_some hf] at hobs
      exact hs.fits_of_handled hf (TafLine.handleMessage_acts (hs.wellFormed hf) m) hobs
  | shutdown =>
      intro hok
      exact (hs.observed_shutdown hok).mp hobs

/-- **A step keeps what the observers are told right exactly when it fits.** -/
theorem Sound.observed_step (hs : s.Sound) (ev : TapiEvent) :
    (s.step ev).Observed ↔ s.Fits ev :=
  ⟨hs.fits_of_observed, fun hfits => (hs.step hfits).observed⟩

/-- **The observers are told the calls of the maps, each as episodes, in every state of a run
exactly when every message fits.** -/
theorem observed_iff (evs : List TapiEvent) :
    (∀ pre post, evs = pre ++ post → (run step create pre).Observed) ↔
      Along step Fits create evs := by
  rw [← along_after_iff sound_create.observed]
  exact along_congr (fun _ _ hs hfits => hs.step hfits) (fun _ ev hs => hs.observed_step ev)
    sound_create

/-- A line is closed while its call rings, and nobody is told that the call has ended. -/
theorem closed_call_not_ended : ¬ (run step create
    [.init [⟨true, 7, true, true⟩], .message 0 (.appNewCall 5 none),
      .message 0 (.callState 5 .offering), .message 0 .close]).Observed := by
  intro hobs
  obtain ⟨isOpen, hfollow, hr⟩ := observed_iff_follow.mp hobs 5
  obtain rfl := Option.some.inj (hfollow.symm.trans (by decide +kernel : _ = some true))
  obtain ⟨a, line, ⟨id, hm⟩, hf, hh⟩ := hr.mp rfl
  have hmem : (id, a) ∈ [(7, 0)] := OrderedMap.mem_entries.mpr hm
  obtain ⟨rfl, rfl⟩ := Prod.mk.inj (List.mem_singleton.mp hmem)
  obtain rfl := Option.some.inj hf
  exact TafLine.not_holds_of_none rfl hh

/-- A handle that was given to one call has one episode at most. -/
theorem Observed.once (hs : s.Observed) (h : Nat)
    (h1 : (s.told.filter fun e => e.cid = h).countP (CallEvent.mark · = .opens) ≤ 1) :
    (s.told.filter fun e => e.cid = h) = [] ∧ ¬ s.Reported h ∨
      Begun CallEvent.mark (s.told.filter fun e => e.cid = h) ∧ s.Reported h ∨
      Complete CallEvent.mark (s.told.filter fun e => e.cid = h) ∧ ¬ s.Reported h := by
  obtain ⟨isOpen, hshape, hr⟩ := hs h
  rw [← hr, Bool.not_eq_true]
  exact hshape.once h1

end TafManager

end Cmon
