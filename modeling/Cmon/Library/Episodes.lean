import Mathlib.Data.List.Basic
import Mathlib.Data.List.Induction

/-!
# Library — episodes

A log of events of which each belongs to a key and opens an episode of the key, updates the open
one or closes it.  `follow` reads the log for one key and says whether an episode is open at its
end; it fails where an event does not fit.

* `follow_append`: a log is read piece by piece.
* `follow_iff`: a log can be read when it consists of whole episodes, and the beginning of one
  more if one is open at the end.
* `Shape.once`: a key that is opened once has one episode.
-/

namespace Cmon.Library.Episodes

/-- What an event does to the episode of its key. -/
inductive Mark where
  | opens | updates | closes
  deriving DecidableEq, Repr

/-- Whether an episode is open after the event, when the event fits. -/
def Mark.apply : Mark → Bool → Option Bool
  | .opens, false => some true
  | .updates, true => some true
  | .closes, true => some false
  | _, _ => none

theorem Mark.apply_opens {isOpen isOpen' : Bool} :
    Mark.opens.apply isOpen = some isOpen' ↔ isOpen = false ∧ isOpen' = true := by
  revert isOpen isOpen'
  decide

theorem Mark.apply_closes {isOpen isOpen' : Bool} :
    Mark.closes.apply isOpen = some isOpen' ↔ isOpen = true ∧ isOpen' = false := by
  revert isOpen isOpen'
  decide

theorem Mark.apply_updates {isOpen isOpen' : Bool} :
    Mark.updates.apply isOpen = some isOpen' ↔ isOpen = true ∧ isOpen' = true := by
  revert isOpen isOpen'
  decide

variable {E K : Type*} [DecidableEq K] {key : E → K} {mark : E → Mark} {k : K}

/-- An event, read for the key `k`; the `Bool` says whether an episode is open. -/
def turn (key : E → K) (mark : E → Mark) (k : K) (isOpen : Bool) (e : E) : Option Bool :=
  if key e = k then (mark e).apply isOpen else some isOpen

/-- A log, read for the key `k`. -/
def follow (key : E → K) (mark : E → Mark) (k : K) : Bool → List E → Option Bool
  | isOpen, [] => some isOpen
  | isOpen, e :: es => (turn key mark k isOpen e).bind fun isOpen => follow key mark k isOpen es

@[simp] theorem follow_nil (isOpen : Bool) : follow key mark k isOpen [] = some isOpen := rfl

theorem follow_cons (isOpen : Bool) (e : E) (es : List E) : follow key mark k isOpen (e :: es) =
    (turn key mark k isOpen e).bind fun isOpen => follow key mark k isOpen es := rfl

/-- **A log is read piece by piece.** -/
theorem follow_append (isOpen : Bool) (es es' : List E) : follow key mark k isOpen (es ++ es') =
    (follow key mark k isOpen es).bind fun isOpen => follow key mark k isOpen es' := by
  induction es generalizing isOpen with
  | nil => rfl
  | cons e es ih =>
      rw [List.cons_append, follow_cons, follow_cons, Option.bind_assoc]
      exact Option.bind_congr fun isOpen _ => ih isOpen

/-- Events of other keys, and updates of an open episode. -/
theorem follow_of_updates {isOpen : Bool} {es : List E}
    (h : ∀ e ∈ es, key e = k → isOpen = true ∧ mark e = .updates) :
    follow key mark k isOpen es = some isOpen := by
  induction es with
  | nil => rfl
  | cons e es ih =>
      rw [follow_cons]
      have ht : turn key mark k isOpen e = some isOpen := by
        rw [turn]
        split
        · next he =>
          obtain ⟨rfl, hm⟩ := h e (.head _) he
          rw [hm]
          rfl
        · rfl
      rw [ht]
      exact ih fun e he => h e (.tail _ he)

/-- The beginning of an episode: it is opened, and then there are updates only. -/
def Begun (mark : E → Mark) (es : List E) : Prop :=
  ∃ o us, es = o :: us ∧ mark o = .opens ∧ ∀ u ∈ us, mark u = .updates

/-- An episode: it is opened, there are updates, and then it is closed. -/
def Complete (mark : E → Mark) (es : List E) : Prop :=
  ∃ begun c, es = begun ++ [c] ∧ Begun mark begun ∧ mark c = .closes

/-- Complete episodes, and the beginning of another when one is open. -/
def Shape (mark : E → Mark) (isOpen : Bool) (es : List E) : Prop :=
  ∃ episodes rest, es = List.flatten episodes ++ rest ∧ (∀ l ∈ episodes, Complete mark l) ∧
    if isOpen then Begun mark rest else rest = []

theorem shape_nil : Shape mark false [] := ⟨[], [], rfl, fun _ h => absurd h List.not_mem_nil, rfl⟩

/-- An event that fits goes on with the shape. -/
theorem Shape.concat {isOpen isOpen' : Bool} {es : List E} {e : E} (h : Shape mark isOpen es)
    (he : key e = k) (ht : turn key mark k isOpen e = some isOpen') :
    Shape mark isOpen' (es ++ [e]) := by
  obtain ⟨episodes, rest, rfl, hall, hrest⟩ := h
  rw [turn, if_pos he] at ht
  cases hm : mark e with
  | opens =>
      cases isOpen with
      | true => rw [hm] at ht; cases ht
      | false =>
          rw [hm] at ht
          obtain rfl := Option.some.inj ht
          obtain rfl : rest = [] := hrest
          exact ⟨episodes, [e], by simp, hall, e, [], rfl, hm, fun _ h => absurd h List.not_mem_nil⟩
  | updates =>
      cases isOpen with
      | false => rw [hm] at ht; cases ht
      | true =>
          rw [hm] at ht
          obtain rfl := Option.some.inj ht
          obtain ⟨o, us, rfl, ho, hus⟩ := hrest
          refine ⟨episodes, o :: us ++ [e], by simp, hall, o, us ++ [e], rfl, ho, fun u hu => ?_⟩
          rcases List.mem_append.mp hu with hu | hu
          · exact hus u hu
          · rwa [List.mem_singleton.mp hu]
  | closes =>
      cases isOpen with
      | false => rw [hm] at ht; cases ht
      | true =>
          rw [hm] at ht
          obtain rfl := Option.some.inj ht
          refine ⟨episodes ++ [rest ++ [e]], [], by simp, fun l hl => ?_, rfl⟩
          rcases List.mem_append.mp hl with hl | hl
          · exact hall l hl
          · rw [List.mem_singleton.mp hl]
            exact ⟨rest, e, rfl, hrest, hm⟩

/-- A log that can be read consists of complete episodes of the key, and the beginning of another
when one is open at the end. -/
theorem shape_of_follow {es : List E} {isOpen : Bool}
    (h : follow key mark k false es = some isOpen) :
    Shape mark isOpen (es.filter fun e => key e = k) := by
  induction es using List.reverseRecOn generalizing isOpen with
  | nil =>
      obtain rfl := Option.some.inj h
      exact shape_nil
  | append_singleton es e ih =>
      rw [follow_append] at h
      obtain ⟨b, hb, h⟩ := Option.bind_eq_some_iff.mp h
      rw [follow_cons] at h
      obtain ⟨b', ht, h⟩ := Option.bind_eq_some_iff.mp h
      obtain rfl := Option.some.inj h
      rw [List.filter_append]
      by_cases he : key e = k
      · rw [List.filter_cons_of_pos (by simpa using he)]
        exact (ih hb).concat he ht
      · rw [turn, if_neg he] at ht
        obtain rfl := Option.some.inj ht
        rw [List.filter_cons_of_neg (by simpa using he), List.filter_nil, List.append_nil]
        exact ih hb

/-! ### Reading episodes -/

/-- The events of other keys are passed over. -/
theorem follow_filter (isOpen : Bool) (es : List E) :
    follow key mark k isOpen (es.filter fun e => key e = k) = follow key mark k isOpen es := by
  induction es generalizing isOpen with
  | nil => rfl
  | cons e es ih =>
      by_cases he : key e = k
      · rw [List.filter_cons_of_pos (by simpa using he), follow_cons, follow_cons]
        exact Option.bind_congr fun isOpen _ => ih isOpen
      · rw [List.filter_cons_of_neg (by simpa using he), follow_cons, turn, if_neg he,
          Option.bind_some]
        exact ih isOpen

/-- A part of a log that has all events of the key is read as the log. -/
theorem follow_filter_of {p : E → Prop} [DecidablePred p] (h : ∀ e, key e = k → p e)
    (isOpen : Bool) (es : List E) :
    follow key mark k isOpen (es.filter fun e => p e) = follow key mark k isOpen es := by
  rw [← follow_filter, List.filter_filter, ← follow_filter isOpen es]
  refine congrArg (Episodes.follow key mark k isOpen) (List.filter_congr fun e _ => ?_)
  by_cases he : key e = k
  · simp [he, h e he]
  · simp [he]

/-- The same events, under the key `k'` of another kind. -/
theorem follow_key_congr {K' : Type*} [DecidableEq K'] {key' : E → K'} {k' : K'} {es : List E}
    (h : ∀ e ∈ es, key e = k ↔ key' e = k') (isOpen : Bool) :
    follow key mark k isOpen es = follow key' mark k' isOpen es := by
  induction es generalizing isOpen with
  | nil => rfl
  | cons e es ih =>
      obtain ⟨he, hes⟩ := List.forall_mem_cons.mp h
      rw [follow_cons, follow_cons, turn, turn, if_congr he rfl rfl]
      exact Option.bind_congr fun isOpen _ => ih hes isOpen

/-- A log of messages, each of which stands for some events. -/
theorem follow_flatMap {M K' : Type*} [DecidableEq K'] {key' : M → K'} {mark' : M → Mark} {k' : K'}
    {f : M → List E} (h : ∀ m isOpen, follow key mark k isOpen (f m) = turn key' mark' k' isOpen m)
    (isOpen : Bool) (ms : List M) :
    follow key mark k isOpen (ms.flatMap f) = follow key' mark' k' isOpen ms := by
  induction ms generalizing isOpen with
  | nil => rfl
  | cons m ms ih =>
      rw [List.flatMap_cons, follow_append, h, follow_cons]
      exact Option.bind_congr fun isOpen _ => ih isOpen

theorem Begun.follow {es : List E} (h : Begun mark es) (hk : ∀ e ∈ es, key e = k) :
    follow key mark k false es = some true := by
  obtain ⟨o, us, rfl, ho, hus⟩ := h
  rw [follow_cons, turn, if_pos (hk o (.head _)), ho]
  exact follow_of_updates fun e he _ => ⟨rfl, hus e he⟩

theorem Complete.follow {es : List E} (h : Complete mark es) (hk : ∀ e ∈ es, key e = k) :
    follow key mark k false es = some false := by
  obtain ⟨begun, c, rfl, hb, hc⟩ := h
  rw [follow_append, hb.follow fun e he => hk e (List.mem_append_left _ he), Option.bind_some,
    follow_cons, turn, if_pos (hk c (List.mem_append_right _ (.head _))), hc]
  rfl

theorem Shape.follow {isOpen : Bool} {es : List E} (h : Shape mark isOpen es)
    (hk : ∀ e ∈ es, key e = k) : follow key mark k false es = some isOpen := by
  obtain ⟨episodes, rest, rfl, hall, hrest⟩ := h
  induction episodes with
  | nil =>
      cases isOpen with
      | true => exact Begun.follow hrest hk
      | false =>
          obtain rfl : rest = [] := hrest
          rfl
  | cons l ls ih =>
      rw [List.flatten_cons, List.append_assoc] at hk ⊢
      rw [follow_append, (hall l (.head _)).follow fun e he => hk e (List.mem_append_left _ he),
        Option.bind_some]
      exact ih (fun e he => hk e (List.mem_append_right _ he)) fun l hl => hall l (.tail _ hl)

/-- **A log can be read exactly when it consists of episodes.** -/
theorem follow_iff {es : List E} {isOpen : Bool} : follow key mark k false es = some isOpen ↔
    Shape mark isOpen (es.filter fun e => key e = k) := by
  refine ⟨shape_of_follow, fun h => ?_⟩
  rw [← follow_filter]
  exact h.follow fun e he => by simpa using (List.mem_filter.mp he).2

/-! ### One episode -/

theorem Begun.opens {es : List E} (h : Begun mark es) : 1 ≤ es.countP (mark · = .opens) := by
  obtain ⟨o, us, rfl, ho, -⟩ := h
  rw [List.countP_cons_of_pos (by simpa using ho)]
  exact Nat.le_add_left _ _

theorem Complete.opens {es : List E} (h : Complete mark es) :
    1 ≤ es.countP (mark · = .opens) := by
  obtain ⟨begun, c, rfl, hb, -⟩ := h
  rw [List.countP_append]
  exact Nat.le_trans hb.opens (Nat.le_add_right _ _)

/-- A key that is opened at most once has no episode, the beginning of one, or one. -/
theorem Shape.once {isOpen : Bool} {es : List E} (h : Shape mark isOpen es)
    (h1 : es.countP (mark · = .opens) ≤ 1) :
    es = [] ∧ isOpen = false ∨ Begun mark es ∧ isOpen = true ∨
      Complete mark es ∧ isOpen = false := by
  obtain ⟨episodes, rest, rfl, hall, hrest⟩ := h
  rw [List.countP_append] at h1
  match episodes with
  | [] =>
      cases isOpen with
      | true => exact .inr (.inl ⟨hrest, rfl⟩)
      | false => exact .inl ⟨hrest, rfl⟩
  | [l] =>
      have hl := hall l (.head _)
      cases isOpen with
      | true =>
          have h2 := hl.opens
          have h3 := Begun.opens hrest
          simp only [List.flatten_cons, List.flatten_nil, List.append_nil] at h1
          omega
      | false =>
          obtain rfl : rest = [] := hrest
          exact .inr (.inr ⟨by simpa using hl, rfl⟩)
  | l :: l' :: ls =>
      have h2 := (hall l (.head _)).opens
      have h3 := (hall l' (.tail _ (.head _))).opens
      simp only [List.flatten_cons, List.countP_append] at h1
      omega

end Cmon.Library.Episodes
