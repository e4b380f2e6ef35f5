import Mathlib.Data.List.Perm.Basic
import Cmon.Shared.Platform

/-!
# Shared — the configuration

`wxConfig`, which keeps its entries in the registry (`RegConfig`), and what is documented of it.  An
entry has the path of its group and a name; names are compared without regard to case.  What is
written is taken to be written: the program does not look at the results.

* `RegConfig.Holds`: an entry holds a value, under every spelling of its name.
* `holds_writeAll`: of a list of writes under different names, each is held.
* `listConfig` is a configuration as it is documented.
-/

namespace Cmon

/-- What `Write` is given: a `long`, which an `int` and an `unsigned` become, a `bool` or a text. -/
inductive ConfigValue where
  | long (n : Int)
  | bool (b : Bool)
  | text (t : String)
  deriving DecidableEq, Repr

/-- `wxConfig`: `fold` is what is compared of a name, `expand` is `wxExpandEnvVars`, and `entries`
are the names in a group. -/
structure RegConfig where
  State : Type
  fold : String → String
  expand : String → String
  write : String → String → ConfigValue → State → State
  deleteGroup : String → State → State
  readLong : String → String → State → Option Int
  readBool : String → String → State → Option Bool
  readText : String → String → State → Option String
  entries : String → State → List String

/-- A text of ASCII characters. -/
def isAscii (t : String) : Bool := t.toList.all (·.val < 128)

/-- In lower case, if it is ASCII. -/
def lower (t : String) : String := String.ofList (t.toList.map Char.toLower)

namespace RegConfig

/-- The readings of an entry. -/
def Same (c : RegConfig) (g k : String) (s s' : c.State) : Prop :=
  c.readLong g k s = c.readLong g k s' ∧ c.readBool g k s = c.readBool g k s' ∧
    c.readText g k s = c.readText g k s'

/-- The readings of a group, and how many entries it has. -/
def SameGroup (c : RegConfig) (g : String) (s s' : c.State) : Prop :=
  (∀ k, c.Same g k s s') ∧ (c.entries g s).length = (c.entries g s').length

/-- An entry holds a value; the variables in a text are expanded by the reading. -/
def Holds (c : RegConfig) (g k : String) (v : ConfigValue) (s : c.State) : Prop :=
  ∀ k', c.fold k' = c.fold k →
    match v with
    | .long n => InInt n → c.readLong g k' s = some n
    | .bool b => c.readBool g k' s = some b
    | .text t => '\x00' ∉ t.toList → c.readText g k' s = some (c.expand t)

/-- What is documented. -/
structure Documented (c : RegConfig) : Prop where
  folded : ∀ t, isAscii t = true → c.fold t = lower t
  /-- The name of a variable begins with `%` or `$`. -/
  expanded : ∀ t, '%' ∉ t.toList → '$' ∉ t.toList → c.expand t = t
  held : ∀ g k v s, c.Holds g k v (c.write g k v s)
  kept : ∀ g k v s g' k', c.fold g' ≠ c.fold g ∨ c.fold k' ≠ c.fold k →
    c.Same g' k' (c.write g k v s) s
  added : ∀ g k v s, (∀ k' ∈ c.entries g s, c.fold k' ≠ c.fold k) →
    (c.entries g (c.write g k v s)).Perm (k :: c.entries g s)
  others : ∀ g k v s g', c.fold g' ≠ c.fold g → c.entries g' (c.write g k v s) = c.entries g' s
  deleted : ∀ g s, c.entries g (c.deleteGroup g s) = []
  /-- Only the groups below it are deleted with a group. -/
  apart : ∀ g s g', c.fold g' ≠ c.fold g → startsWith (c.fold g') (c.fold g ++ "/") = false →
    c.SameGroup g' (c.deleteGroup g s) s

/-- One `Write` into a group after the other. -/
def writeAll (c : RegConfig) (g : String) (values : List (String × ConfigValue)) (s : c.State) :
    c.State :=
  values.foldl (fun s e => c.write g e.1 e.2 s) s

variable {c : RegConfig} {g g' k : String} {v : ConfigValue} {s s' s'' : c.State}

theorem writeAll_cons (e : String × ConfigValue) (values : List (String × ConfigValue)) :
    c.writeAll g (e :: values) s = c.writeAll g values (c.write g e.1 e.2 s) := Eq.refl _

theorem Same.rfl : c.Same g k s s := ⟨Eq.refl _, Eq.refl _, Eq.refl _⟩

theorem Same.trans (h : c.Same g k s s') (h' : c.Same g k s' s'') : c.Same g k s s'' :=
  ⟨h.1.trans h'.1, h.2.1.trans h'.2.1, h.2.2.trans h'.2.2⟩

theorem SameGroup.rfl : c.SameGroup g s s := ⟨fun _ => .rfl, Eq.refl _⟩

theorem SameGroup.trans (h : c.SameGroup g s s') (h' : c.SameGroup g s' s'') :
    c.SameGroup g s s'' :=
  ⟨fun k => (h.1 k).trans (h'.1 k), h.2.trans h'.2⟩

/-- What an entry holds is held where its readings are the same. -/
theorem Holds.of_same (h : c.Holds g k v s)
    (hsame : ∀ k', c.fold k' = c.fold k → c.Same g k' s' s) :
    c.Holds g k v s' := by
  intro k' hk'
  obtain ⟨hlong, hbool, htext⟩ := hsame k' hk'
  have hk := h k' hk'
  cases v with
  | long n => exact fun hn => hlong.trans (hk hn)
  | bool b => exact hbool.trans hk
  | text t => exact fun ht => htext.trans (hk ht)

theorem Holds.long {n : Int} (h : c.Holds g k (.long n) s) (hn : InInt n) :
    c.readLong g k s = some n := h k (Eq.refl _) hn

theorem Holds.bool {b : Bool} (h : c.Holds g k (.bool b) s) : c.readBool g k s = some b :=
  h k (Eq.refl _)

theorem Holds.text {t : String} (h : c.Holds g k (.text t) s) (ht : '\x00' ∉ t.toList) :
    c.readText g k s = some (c.expand t) := h k (Eq.refl _) ht

theorem Holds.spelled (h : c.Holds g k v s) {k' : String} (hk : c.fold k' = c.fold k) :
    c.Holds g k' v s := fun k'' hk'' => h k'' (hk''.trans hk)

namespace Documented

/-- Names in ASCII that are different in lower case are different. -/
theorem nodup_fold (hc : c.Documented) (names : List String)
    (hascii : names.all isAscii = true) (hnames : (names.map lower).Nodup) :
    (names.map c.fold).Nodup := by
  rwa [List.map_congr_left fun t ht => hc.folded t (List.all_eq_true.mp hascii t ht)]

/-- Writes under other names leave an entry alone. -/
theorem holds_of_notMem (hc : c.Documented) {values : List (String × ConfigValue)}
    (h : c.Holds g k v s) (hk : c.fold k ∉ values.map fun e => c.fold e.1) :
    c.Holds g k v (c.writeAll g values s) := by
  induction values generalizing s with
  | nil => exact h
  | cons e values ih =>
      rw [List.map_cons, List.mem_cons, not_or] at hk
      refine ih (h.of_same fun k' hk' => hc.kept _ _ _ _ _ _ (.inr ?_)) hk.2
      rw [hk']
      exact hk.1

/-- **Each write is held.** -/
theorem holds_writeAll (hc : c.Documented) (g : String) (values : List (String × ConfigValue))
    (hnames : (values.map fun e => c.fold e.1).Nodup) (s : c.State) :
    ∀ e ∈ values, c.Holds g e.1 e.2 (c.writeAll g values s) := by
  induction values generalizing s with
  | nil => exact fun _ he => absurd he List.not_mem_nil
  | cons e values ih =>
      obtain ⟨hnew, hnames⟩ := List.nodup_cons.mp hnames
      have hself : c.Holds g e.1 e.2 (c.write g e.1 e.2 s) := hc.held g e.1 e.2 s
      rw [writeAll_cons]
      exact List.forall_mem_cons.mpr ⟨hc.holds_of_notMem hself hnew, ih hnames _⟩

/-- The other groups stay. -/
theorem sameGroup_writeAll (hc : c.Documented) (values : List (String × ConfigValue))
    (hg : c.fold g' ≠ c.fold g) (s : c.State) : c.SameGroup g' (c.writeAll g values s) s := by
  induction values generalizing s with
  | nil => exact .rfl
  | cons e values ih =>
      refine (ih (c.write g e.1 e.2 s)).trans ⟨fun k => hc.kept _ _ _ _ _ _ (.inl hg), ?_⟩
      rw [hc.others _ _ _ _ _ hg]

/-- The names are those that were there and those of the writes. -/
theorem entries_writeAll (hc : c.Documented) {values : List (String × ConfigValue)}
    (hnames : (values.map fun e => c.fold e.1).Nodup)
    (hnew : ∀ e ∈ values, ∀ k ∈ c.entries g s, c.fold k ≠ c.fold e.1) :
    (c.entries g (c.writeAll g values s)).Perm
      ((values.map Prod.fst).reverse ++ c.entries g s) := by
  induction values generalizing s with
  | nil => exact List.Perm.refl _
  | cons e values ih =>
      obtain ⟨hfirst, hnames⟩ := List.nodup_cons.mp hnames
      obtain ⟨he, hrest⟩ := List.forall_mem_cons.mp hnew
      have hadded := hc.added g e.1 e.2 s he
      refine (ih hnames fun e' he' k hk => ?_).trans ?_
      · rcases List.mem_cons.mp (hadded.subset hk) with rfl | hk
        · exact fun heq => hfirst (List.mem_map.mpr ⟨e', he', heq.symm⟩)
        · exact hrest e' he' k hk
      · rw [List.map_cons, List.reverse_cons, List.append_assoc]
        exact hadded.append_left _

/-- A group that was deleted has the entries that are written into it. -/
theorem length_entries_writeAll (hc : c.Documented) {values : List (String × ConfigValue)}
    (hnames : (values.map fun e => c.fold e.1).Nodup) (s : c.State) :
    (c.entries g (c.writeAll g values (c.deleteGroup g s))).length = values.length := by
  have hempty := hc.deleted g s
  have hperm := hc.entries_writeAll (g := g) (s := c.deleteGroup g s) hnames fun _ _ k hk => by
    rw [hempty] at hk
    exact absurd hk List.not_mem_nil
  rw [hperm.length_eq, hempty, List.append_nil, List.length_reverse, List.length_map]

end Documented
end RegConfig

/-! ### A list of entries -/

/-- The entries as they were written, one after the other. -/
abbrev ConfigList := List (String × String × ConfigValue)

namespace ConfigList

/-- The entry of a name. -/
def isEntry (g k : String) (e : String × String × ConfigValue) : Bool :=
  lower e.1 = lower g ∧ lower e.2.1 = lower k

def find (g k : String) (s : ConfigList) : Option ConfigValue :=
  (s.find? (isEntry g k)).map (·.2.2)

def write (g k : String) (v : ConfigValue) (s : ConfigList) : ConfigList :=
  s.filter (fun e => !isEntry g k e) ++ [(g, k, v)]

def isBelow (g : String) (e : String × String × ConfigValue) : Bool :=
  lower e.1 = lower g ∨ startsWith (lower e.1) (lower g ++ "/")

def deleteGroup (g : String) (s : ConfigList) : ConfigList := s.filter fun e => !isBelow g e

def entries (g : String) (s : ConfigList) : List String :=
  (s.filter fun e => lower e.1 = lower g).map (·.2.1)

def asLong : ConfigValue → Option Int
  | .long n => some n
  | .bool b => some b.toNat
  | .text _ => none

def asText : ConfigValue → Option String
  | .text t => some t
  | _ => none

variable {g g' k k' : String} {v : ConfigValue} {s : ConfigList}

theorem find_write (hk : lower k' = lower k) : find g k' (write g k v s) = some v := by
  have hsame : isEntry g k' = isEntry g k := by
    funext e
    rw [isEntry, isEntry, hk]
  have hnone : (s.filter fun e => !isEntry g k e).find? (isEntry g k) = none := by
    rw [List.find?_filter]
    exact List.find?_eq_none.mpr fun e _ => by simp
  have hself : isEntry g k (g, k, v) = true := decide_eq_true ⟨rfl, rfl⟩
  rw [find, hsame, write, List.find?_append, hnone, Option.none_or,
    List.find?_cons_of_pos hself]
  rfl

theorem find_write_of_ne (h : lower g' ≠ lower g ∨ lower k' ≠ lower k) :
    find g' k' (write g k v s) = find g' k' s := by
  have hother : ∀ e, isEntry g' k' e = true → isEntry g k e = false := by
    intro e he
    obtain ⟨hg, hk⟩ := of_decide_eq_true he
    refine decide_eq_false fun ⟨hg', hk'⟩ => ?_
    exact h.elim (fun h => h (hg.symm.trans hg')) fun h => h (hk.symm.trans hk')
  have hlast : isEntry g' k' (g, k, v) = false := by
    refine Bool.eq_false_iff.mpr fun he => ?_
    have hself : isEntry g k (g, k, v) = true := decide_eq_true ⟨rfl, rfl⟩
    rw [hother _ he] at hself
    cases hself
  have hfun : (fun e => decide ((!isEntry g k e) = true ∧ isEntry g' k' e = true)) =
      isEntry g' k' := by
    funext e
    cases he : isEntry g' k' e with
    | true => simp [hother e he]
    | false => simp
  rw [find, find, write, List.find?_append, List.find?_filter, hfun,
    List.find?_cons_of_neg (Bool.eq_false_iff.mp hlast), List.find?_nil, Option.or_none]

/-- The names of another group. -/
theorem entries_write_of_ne (h : lower g' ≠ lower g) : entries g' (write g k v s) = entries g' s := by
  have hlast : [(g, k, v)].filter (fun e => decide (lower e.1 = lower g')) = [] :=
    List.filter_cons_of_neg (by simpa using Ne.symm h)
  have hother : (s.filter fun e => !isEntry g k e).filter (fun e => decide (lower e.1 = lower g')) =
      s.filter fun e => decide (lower e.1 = lower g') := by
    rw [List.filter_filter]
    refine List.filter_congr fun e _ => ?_
    by_cases hg : lower e.1 = lower g'
    · have hne : isEntry g k e = false := decide_eq_false fun he => h (hg.symm.trans he.1)
      simp [hg, hne]
    · simp [hg]
  rw [entries, entries, write, List.filter_append, hother, hlast, List.append_nil]

theorem entries_write_new (h : ∀ k' ∈ entries g s, lower k' ≠ lower k) :
    entries g (write g k v s) = entries g s ++ [k] := by
  have hsame : s.filter (fun e => !isEntry g k e) = s := by
    refine List.filter_eq_self.mpr fun e he => ?_
    have hne : isEntry g k e = false := by
      refine decide_eq_false fun ⟨hg, hk⟩ => h e.2.1 ?_ hk
      exact List.mem_map.mpr ⟨e, List.mem_filter.mpr ⟨he, decide_eq_true hg⟩, rfl⟩
    rw [hne]
    rfl
  have hlast : [(g, k, v)].filter (fun e => decide (lower e.1 = lower g)) = [(g, k, v)] :=
    List.filter_cons_of_pos (decide_eq_true rfl)
  rw [entries, entries, write, List.filter_append, hsame, hlast, List.map_append]
  rfl

theorem entries_deleteGroup : entries g (deleteGroup g s) = [] := by
  rw [entries, deleteGroup, List.filter_filter, List.map_eq_nil_iff, List.filter_eq_nil_iff]
  intro e _ he
  simp only [Bool.and_eq_true, decide_eq_true_eq, Bool.not_eq_true'] at he
  exact absurd (decide_eq_true (.inl he.1)) (Bool.eq_false_iff.mp he.2)

/-- The groups that are not below it stay. -/
theorem filter_deleteGroup {f : String × String × ConfigValue → Bool}
    (hf : ∀ e, f e = true → lower e.1 = lower g') (hg : lower g' ≠ lower g)
    (hbelow : startsWith (lower g') (lower g ++ "/") = false) :
    (deleteGroup g s).filter f = s.filter f := by
  rw [deleteGroup, List.filter_filter]
  refine List.filter_congr fun e _ => ?_
  cases he : f e with
  | false => rfl
  | true =>
      have hout : isBelow g e = false := by
        refine decide_eq_false (not_or.mpr ⟨?_, ?_⟩)
        · rw [hf e he]
          exact hg
        · rw [hf e he, hbelow]
          exact Bool.false_ne_true
      rw [hout]
      rfl

theorem find_deleteGroup (hg : lower g' ≠ lower g)
    (hbelow : startsWith (lower g') (lower g ++ "/") = false) :
    find g' k (deleteGroup g s) = find g' k s := by
  have hkept := filter_deleteGroup (s := s) (f := isEntry g' k)
    (fun e he => (of_decide_eq_true he).1) hg hbelow
  rw [find, find, ← List.head?_filter, ← List.head?_filter, hkept]

theorem entries_deleteGroup_of_ne (hg : lower g' ≠ lower g)
    (hbelow : startsWith (lower g') (lower g ++ "/") = false) :
    entries g' (deleteGroup g s) = entries g' s := by
  rw [entries, entries, filter_deleteGroup (fun e he => of_decide_eq_true he) hg hbelow]

end ConfigList

/-- A configuration that is such a list. -/
def listConfig (expand : String → String) : RegConfig where
  State := ConfigList
  fold := lower
  expand := expand
  write := ConfigList.write
  deleteGroup := ConfigList.deleteGroup
  readLong g k s := (ConfigList.find g k s).bind ConfigList.asLong
  readBool g k s := ((ConfigList.find g k s).bind ConfigList.asLong).map (· ≠ 0)
  readText g k s := ((ConfigList.find g k s).bind ConfigList.asText).map expand
  entries := ConfigList.entries

theorem same_of_find {expand : String → String} {g k : String} {s s' : ConfigList}
    (h : ConfigList.find g k s = ConfigList.find g k s') :
    (listConfig expand).Same g k s s' := by
  simp only [RegConfig.Same, listConfig, h, and_self]

theorem listConfig_documented {expand : String → String}
    (hexpand : ∀ t : String, '%' ∉ t.toList → '$' ∉ t.toList → expand t = t) :
    (listConfig expand).Documented where
  folded _ _ := rfl
  expanded := hexpand
  held g k v s k' hk' := by
    have hfind : ConfigList.find g k' (ConfigList.write g k v s) = some v :=
      ConfigList.find_write hk'
    cases v with
    | long n =>
        intro _
        simp only [listConfig, hfind]
        rfl
    | bool b =>
        simp only [listConfig, hfind]
        cases b <;> rfl
    | text t =>
        intro _
        simp only [listConfig, hfind]
        rfl
  kept g k v s g' k' h := same_of_find (ConfigList.find_write_of_ne h)
  added g k v s h := by
    show (ConfigList.entries g (ConfigList.write g k v s)).Perm (k :: ConfigList.entries g s)
    rw [ConfigList.entries_write_new h]
    exact List.perm_append_singleton k _
  others g k v s g' h := ConfigList.entries_write_of_ne h
  deleted g s := ConfigList.entries_deleteGroup
  apart g s g' hg hbelow :=
    ⟨fun _ => same_of_find (ConfigList.find_deleteGroup hg hbelow),
      congrArg List.length (ConfigList.entries_deleteGroup_of_ne hg hbelow)⟩

end Cmon
