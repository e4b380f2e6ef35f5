import Mathlib.Data.List.Sort
import Cmon.Resolver.Restart

/-!
# Resolver — positions

The operations on the list of resolvers, in any order.  A new resolver at the front and a resolver
that is moved make the positions count anew; one at the end is given the greatest position there
is, which is that of the last resolver, so two resolvers have it.

* `Ordered`: the positions increase strictly and the names differ.
* `Restored`: however the saved rows are read in the order of their positions, the resolvers come
  as they are shown.  The column `name` makes a number of a text that looks like one, so two names
  may share a row.
* `Placed` ties the table to an ordered list.
* `ordered_iff`: the list stays ordered and is restored exactly as long as no new name is appended
  behind a resolver with a position that is not negative, and none shares its row with another.
-/

namespace Cmon
open Library

namespace ResolverModel
variable {p : ResolverPlatform} {s : ResolverModel p}

/-- An operation on the list.  A new resolver has not been saved: `CResolver` makes it dirty. -/
inductive ListOp where
  | prepend (pR : Resolver) (new : pR.dirty = true)
  | append (pR : Resolver) (new : pR.dirty = true)
  | moveUp (idx : Nat)
  | moveDown (idx : Nat)
  | toggle (idx : Nat)
  | delete (idx : Nat)

def apply (s : ResolverModel p) : ListOp → ResolverModel p
  | .prepend pR _ => s.prependEntry pR
  | .append pR _ => s.appendEntry pR
  | .moveUp idx => s.moveUp idx
  | .moveDown idx => s.moveDown idx
  | .toggle idx => s.toggle idx
  | .delete idx => s.deleteEntry idx

/-- The positions increase strictly along the list, and no name comes twice. -/
def Ordered (l : List Resolver) : Prop :=
  l.Pairwise (·.position < ·.position) ∧ (l.map (·.name)).Nodup

/-- **Reading the saved table in the order of the positions gives the order shown**: the same
resolvers, by their names as the column gives them back. -/
def Restored (s : ResolverModel p) : Prop :=
  ∀ order, Allowed s.rows order →
    (order.map (loadRow p s.books)).map (·.name) = s.resolvers.map fun r => p.toText (cell p r)

/-- The list has been read from the table, and the column gives the names back. -/
def Loaded (s : ResolverModel p) : Prop :=
  ∃ order, Allowed s.rows order ∧ s.resolvers = order.map (loadRow p s.books) ∧
    ∀ row ∈ s.rows, p.ofText (toUTF8 (p.toText row.name)) = row.name

/-- A new name has a row of its own, and one that is appended comes behind negative positions. -/
def Behind (s : ResolverModel p) : ListOp → Prop
  | .append pR _ => s.hasEntry pR.name = true ∨
      (∀ r ∈ s.resolvers, r.position < 0) ∧ cell p pR ∉ s.resolvers.map (cell p)
  | .prepend pR _ => s.hasEntry pR.name = true ∨ cell p pR ∉ s.resolvers.map (cell p)
  | _ => True

instance (l : List Resolver) : Decidable (Ordered l) := inferInstanceAs (Decidable (_ ∧ _))

instance (s : ResolverModel p) : ∀ op, Decidable (s.Behind op)
  | .append pR _ => inferInstanceAs (Decidable (s.hasEntry pR.name = true ∨
      (∀ r ∈ s.resolvers, r.position < 0) ∧ cell p pR ∉ s.resolvers.map (cell p)))
  | .prepend pR _ => inferInstanceAs (Decidable
      (s.hasEntry pR.name = true ∨ cell p pR ∉ s.resolvers.map (cell p)))
  | .moveUp _ | .moveDown _ | .toggle _ | .delete _ => isTrue trivial

/-! ### Lists in order -/

/-- Changes that concern neither position nor name. -/
theorem Ordered.of_map {l l' : List Resolver} (h : Ordered l)
    (hpos : l'.map (·.position) = l.map (·.position)) (hname : l'.map (·.name) = l.map (·.name)) :
    Ordered l' := by
  refine ⟨?_, hname ▸ h.2⟩
  have hp := List.pairwise_map.mpr h.1
  rw [← hpos] at hp
  exact List.pairwise_map.mp hp

theorem ordered_setDirty {l : List Resolver} :
    Ordered (l.map (·.setDirty false)) ↔ Ordered l := by
  refine ⟨fun h => h.of_map ?_ ?_, fun h => h.of_map ?_ ?_⟩ <;>
    simp [Function.comp_def, Resolver.setDirty]

/-- The positions count anew. -/
theorem ordered_renumber {l : List Resolver} (h : (l.map (·.name)).Nodup) : Ordered (renumber l) :=
  ⟨sorted_renumber l, by rwa [renumber_names]⟩

/-- The position that `appendEntry` finds: one of the list's, or `0`, and none is greater. -/
theorem greatest_position (l : List Resolver) (start : Int) :
    let pos := l.foldl (fun pos r => if r.position > pos then r.position else pos) start
    start ≤ pos ∧ (∀ r ∈ l, r.position ≤ pos) ∧ (pos = start ∨ ∃ r ∈ l, r.position = pos) := by
  induction l generalizing start with
  | nil => exact ⟨le_refl _, fun _ h => absurd h List.not_mem_nil, .inl rfl⟩
  | cons r l ih =>
      obtain ⟨hstart, hall, hfrom⟩ := ih (if r.position > start then r.position else start)
      have hr : r.position ≤ if r.position > start then r.position else start := by
        split <;> omega
      have hs : start ≤ if r.position > start then r.position else start := by
        split <;> omega
      refine ⟨hs.trans hstart, ?_, ?_⟩
      · intro r' hr'
        rcases List.mem_cons.mp hr' with rfl | hr'
        · exact hr.trans hstart
        · exact hall r' hr'
      · rcases hfrom with hfrom | ⟨r', hr', e⟩
        · rw [List.foldl_cons, hfrom]
          split
          · exact .inr ⟨r, .head _, rfl⟩
          · exact .inl rfl
        · exact .inr ⟨r', .tail _ hr', e⟩

/-! ### The list and the table -/

/-- The list is in order, and each of its resolvers has its own row, with its position. -/
structure Placed (s : ResolverModel p) : Prop where
  ordered : Ordered s.resolvers
  clean : ∀ r ∈ s.resolvers, r.dirty = false
  cells : (s.resolvers.map (cell p)).Nodup
  rowNames : (s.rows.map (·.name)).Nodup
  known : ∀ row ∈ s.rows, row.name ∈ s.resolvers.map (cell p)
  stored : ∀ r ∈ s.resolvers, StoredAs (fun r row => row.pos = r.position) s.rows r

theorem writes_position (r : Resolver) :
    Writes (p := p) (fun r row => row.pos = r.position) r := by
  constructor
  · rw [written]
    cases r.type <;> rfl
  · intro row _
    rw [overwritten]
    cases r.type <;> rfl

theorem Loaded.placed (h : Loaded s) (hs : Ordered s.resolvers) : Placed s := by
  obtain ⟨order, ⟨hperm, -⟩, hlist, hback⟩ := h
  have hcell : ∀ row ∈ s.rows, cell p (loadRow p s.books row) = row.name := by
    intro row hrow
    rw [cell, loadRow_name]
    exact hback row hrow
  have hcells : s.resolvers.map (cell p) = order.map (·.name) := by
    rw [hlist, List.map_map]
    exact List.map_congr_left fun row hrow => hcell row (hperm.subset hrow)
  have hloaded : ∀ r ∈ s.resolvers, ∃ row ∈ s.rows, r = loadRow p s.books row := by
    intro r hr
    rw [hlist] at hr
    obtain ⟨row, hrow, rfl⟩ := List.mem_map.mp hr
    exact ⟨row, hperm.subset hrow, rfl⟩
  -- rows with one name would be read as resolvers with one name
  have hnames : (order.map (·.name)).Nodup := by
    have hnodup : ((order.map (·.name)).map p.toText).Nodup := by
      have hshown : s.resolvers.map (·.name) = (order.map (·.name)).map p.toText := by
        rw [hlist, List.map_map, List.map_map]
        exact List.map_congr_left fun row _ => loadRow_name _ row
      exact hshown ▸ hs.2
    exact hnodup.of_map
  have hrowNames : (s.rows.map (·.name)).Nodup := ((hperm.map _).nodup_iff).mp hnames
  refine ⟨hs, ?_, hcells ▸ hnames, hrowNames, ?_, ?_⟩
  · intro r hr
    obtain ⟨row, -, rfl⟩ := hloaded r hr
    exact loadRow_clean _ row
  · intro row hrow
    rw [hcells]
    exact List.mem_map_of_mem (hperm.symm.subset hrow)
  · intro r hr
    obtain ⟨row, hrow, rfl⟩ := hloaded r hr
    refine ⟨⟨row, hrow, (hcell row hrow).symm⟩, fun row' hrow' hname => ?_⟩
    rw [List.inj_on_of_nodup_map hrowNames hrow' hrow (hname.trans (hcell row hrow))]
    exact (loadRow_position _ row).symm

/-- What is compared of a row, and of the resolver it is the row of. -/
theorem Placed.perm (h : Placed s) : (s.rows.map fun row => (row.name, row.pos)).Perm
    (s.resolvers.map fun r => (cell p r, r.position)) := by
  have hrows : (s.rows.map fun row => (row.name, row.pos)).Nodup := by
    refine List.Nodup.of_map Prod.fst ?_
    rw [List.map_map]
    exact h.rowNames
  have hlist : (s.resolvers.map fun r => (cell p r, r.position)).Nodup := by
    refine List.Nodup.of_map Prod.fst ?_
    rw [List.map_map]
    exact h.cells
  refine (List.perm_ext_iff_of_nodup hrows hlist).mpr fun x => ?_
  constructor
  · intro hx
    obtain ⟨row, hrow, rfl⟩ := List.mem_map.mp hx
    obtain ⟨r, hr, hname⟩ := List.mem_map.mp (h.known row hrow)
    refine List.mem_map.mpr ⟨r, hr, ?_⟩
    rw [hname, (h.stored r hr).2 row hrow hname.symm]
  · intro hx
    obtain ⟨r, hr, rfl⟩ := List.mem_map.mp hx
    obtain ⟨⟨row, hrow, hname⟩, hall⟩ := h.stored r hr
    refine List.mem_map.mpr ⟨row, hrow, ?_⟩
    rw [hname, hall row hrow hname]

/-- **The rows of a list in order are read in its order.** -/
theorem Placed.restored (h : Placed s) : Restored s := by
  rintro order ⟨hperm, hle⟩
  have hread : order.map (fun row => (row.name, row.pos)) =
      s.resolvers.map fun r => (cell p r, r.position) := by
    have hnodup : (s.resolvers.map (·.position)).Nodup :=
      List.pairwise_map.mpr (h.ordered.1.imp fun hlt => ne_of_lt hlt)
    refine @List.Perm.eq_of_pairwise _ (fun a b => a.2 ≤ b.2) _ _ ?_ (List.pairwise_map.mpr hle)
      (List.pairwise_map.mpr (h.ordered.1.imp le_of_lt)) ((hperm.map _).trans h.perm)
    -- two of one position are those of one resolver
    intro a b ha hb hab hba
    obtain ⟨r, hr, rfl⟩ := List.mem_map.mp (((hperm.map _).trans h.perm).subset ha)
    obtain ⟨r', hr', rfl⟩ := List.mem_map.mp hb
    rw [List.inj_on_of_nodup_map hnodup hr hr' (le_antisymm hab hba)]
  have hnames := congrArg (List.map fun x => p.toText x.1) hread
  rw [List.map_map, List.map_map] at hnames
  rw [List.map_map]
  refine Eq.trans (List.map_congr_left fun row _ => ?_) hnames
  exact loadRow_name _ row

/-- A save keeps the names of the rows apart, and adds those of the list only. -/
theorem Placed.rows_save (h : Placed s) {l : List Resolver}
    (hkept : ∀ r ∈ s.resolvers, cell p r ∈ l.map (cell p)) :
    ((saveAll s.rows l).map (·.name)).Nodup ∧
      ∀ row ∈ saveAll s.rows l, row.name ∈ l.map (cell p) := by
  refine ⟨nodup_saveAll h.rowNames, ?_⟩
  refine names_saveAll (P := fun c => c ∈ l.map (cell p)) (fun row hrow => ?_)
    fun r hr => List.mem_map_of_mem hr
  obtain ⟨r, hr, hname⟩ := List.mem_map.mp (h.known row hrow)
  exact hname ▸ hkept r hr

theorem map_setDirty {β : Type} {f : Resolver → β} (hf : ∀ r, f (r.setDirty false) = f r)
    (l : List Resolver) : (l.map (·.setDirty false)).map f = l.map f := by
  rw [List.map_map]
  exact List.map_congr_left fun r _ => hf r

/-- **A save after a change of the list that keeps its resolvers.** -/
theorem Placed.save (h : Placed s) {l : List Resolver} (hord : Ordered l)
    (hcells : (l.map (cell p)).Nodup) (hclean : ∀ r ∈ l, r.dirty = false → r ∈ s.resolvers)
    (hkept : ∀ r ∈ s.resolvers, cell p r ∈ l.map (cell p)) :
    Placed (saveEntries { s with resolvers := l }) := by
  obtain ⟨hnames, hknown⟩ := h.rows_save hkept
  have hstored := storedAs_saveAll hcells (fun r _ => writes_position r)
    fun r hr hd => h.stored r (hclean r hr hd)
  have hmap : (l.map (·.setDirty false)).map (cell p) = l.map (cell p) :=
    map_setDirty (fun _ => rfl) l
  refine ⟨ordered_setDirty.mpr hord, ?_, ?_, hnames, ?_, ?_⟩
  · intro r hr
    obtain ⟨r₀, -, rfl⟩ := List.mem_map.mp hr
    rfl
  · show ((l.map (·.setDirty false)).map (cell p)).Nodup
    rwa [hmap]
  · show ∀ row ∈ saveAll s.rows l, row.name ∈ (l.map (·.setDirty false)).map (cell p)
    rwa [hmap]
  · intro r hr
    obtain ⟨r₀, hr₀, rfl⟩ := List.mem_map.mp hr
    exact hstored r₀ hr₀

/-- Names that share a row are not restored: there is a row less. -/
theorem nodup_of_restored {l : List Resolver} {rows : List (ResolverRow p)} {books : Books}
    (hnames : (rows.map (·.name)).Nodup) (hknown : ∀ row ∈ rows, row.name ∈ l.map (cell p))
    (h : Restored ⟨rows, l, books⟩) : (l.map (cell p)).Nodup := by
  have hlength : rows.length = l.length := by
    have hread := congrArg List.length (h (rows.mergeSort fun a b => a.pos ≤ b.pos)
      ⟨List.mergeSort_perm _ _, by
        simpa using @List.pairwise_mergeSort _ (fun a b : ResolverRow p => a.pos ≤ b.pos)
          (fun a b c hab hbc => by simp only [decide_eq_true_eq] at *; omega)
          (fun a b => by simp only [Bool.or_eq_true, decide_eq_true_eq]; omega) rows⟩)
    simpa using hread
  have hsub : (rows.map (·.name)).Subperm (l.map (cell p)) := by
    refine List.subperm_of_subset hnames fun c hc => ?_
    obtain ⟨row, hrow, rfl⟩ := List.mem_map.mp hc
    exact hknown row hrow
  exact (hsub.perm_of_length_le (by simp [hlength])).nodup_iff.mp hnames

/-! ### The operations -/

theorem renumber_cells (l : List Resolver) : (renumber l).map (cell p) = l.map (cell p) := by
  have hnames := congrArg (List.map fun name => p.ofText (toUTF8 name)) (renumber_names l)
  rw [List.map_map, List.map_map] at hnames
  exact hnames

/-- Another order of the list, counted anew. -/
theorem Placed.renumber (h : Placed s) {l : List Resolver} (hnames : (l.map (·.name)).Nodup)
    (hcells : (l.map (cell p)).Nodup) (hclean : ∀ r ∈ l, r.dirty = false → r ∈ s.resolvers)
    (hkept : ∀ r ∈ s.resolvers, cell p r ∈ l.map (cell p)) :
    Placed (saveEntries { s with resolvers := ResolverModel.renumber l }) := by
  refine h.save (ordered_renumber hnames) ?_ ?_ ?_
  · rwa [renumber_cells]
  · intro r hr hd
    obtain ⟨r₀, hr₀, pos, rfl⟩ := mem_renumber hr
    obtain ⟨hsame, hd₀⟩ := setPosition_clean hd
    rw [hsame]
    exact hclean r₀ hr₀ hd₀
  · rwa [renumber_cells]

/-- A new resolver at either end: its row is its own exactly if the list is restored. -/
theorem Placed.nodup_new (h : Placed s) {l : List Resolver} {pR : Resolver}
    (hl : (l.map (cell p)).Perm (cell p pR :: s.resolvers.map (cell p)))
    (hr : Restored (saveEntries { s with resolvers := l })) :
    cell p pR ∉ s.resolvers.map (cell p) := by
  obtain ⟨hnames, hknown⟩ := h.rows_save (l := l) fun r hr =>
    hl.symm.subset (.tail _ (List.mem_map_of_mem hr))
  have hmap : (l.map (·.setDirty false)).map (cell p) = l.map (cell p) :=
    map_setDirty (fun _ => rfl) l
  have hnodup := nodup_of_restored hnames (by rwa [hmap]) hr
  rw [hmap, hl.nodup_iff, List.nodup_cons] at hnodup
  exact hnodup.1

/-- **A new resolver at the front** leaves the list restored exactly if it has its own row. -/
theorem Placed.prepend (h : Placed s) {pR : Resolver} (hnew : pR.dirty = true)
    (hb : s.Behind (.prepend pR hnew)) : Placed (s.prependEntry pR) := by
  rw [prependEntry]
  split
  · exact h
  · rename_i hno
    have hown : cell p pR ∉ s.resolvers.map (cell p) := hb.resolve_left hno
    refine h.renumber ?_ (List.nodup_cons.mpr ⟨hown, h.cells⟩) ?_
      fun r hr => .tail _ (List.mem_map_of_mem hr)
    · exact List.nodup_cons.mpr ⟨fun hn => hno (hasEntry_iff.mpr hn), h.ordered.2⟩
    · intro r hr hd
      rcases List.mem_cons.mp hr with rfl | hr
      · cases hd.symm.trans hnew
      · exact hr

theorem Placed.behind_prepend (h : Placed s) {pR : Resolver} {hnew : pR.dirty = true}
    (hr : Restored (s.prependEntry pR)) : s.Behind (.prepend pR hnew) := by
  rw [prependEntry] at hr
  by_cases hno : s.hasEntry pR.name = true
  · exact .inl hno
  · rw [if_neg hno] at hr
    refine .inr (h.nodup_new ?_ hr)
    rw [renumber_cells]
    exact .refl _

/-- **A new name that is appended leaves the list ordered exactly if all positions are negative.** -/
theorem ordered_append_iff (h : Ordered s.resolvers) {pR : Resolver}
    (hn : ¬ s.hasEntry pR.name = true) :
    Ordered (s.appendEntry pR).resolvers ↔ ∀ r ∈ s.resolvers, r.position < 0 := by
  rw [appendEntry, if_neg hn]
  obtain ⟨h0, hall, hfrom⟩ := greatest_position s.resolvers 0
  have hnames : ((s.resolvers ++ [pR.setPosition (s.resolvers.foldl
      (fun pos r => if r.position > pos then r.position else pos) 0)]).map (·.name)).Nodup := by
    rw [List.map_append]
    refine List.nodup_append.mpr ⟨h.2, List.nodup_singleton _, fun a ha b hb hab => ?_⟩
    obtain rfl := List.mem_singleton.mp hb
    rw [hab] at ha
    exact hn (hasEntry_iff.mpr ha)
  refine ordered_setDirty.trans ?_
  rw [Ordered, and_iff_left hnames, List.pairwise_append]
  constructor
  · -- the greatest position must not be one of the list's
    rintro ⟨-, -, hlt⟩ r hr
    have hlast := fun r hr => hlt r hr _ (List.mem_singleton_self _)
    rcases hfrom with hfrom | ⟨r', hr', e⟩
    · exact hfrom ▸ hlast r hr
    · exact absurd e (ne_of_lt (hlast r' hr'))
  · intro hneg
    refine ⟨h.1, List.pairwise_singleton _ _, fun r hr r' hr' => ?_⟩
    obtain rfl := List.mem_singleton.mp hr'
    exact lt_of_lt_of_le (hneg r hr) h0

theorem Placed.append (h : Placed s) {pR : Resolver} (hnew : pR.dirty = true)
    (hb : s.Behind (.append pR hnew)) : Placed (s.appendEntry pR) := by
  by_cases hn : s.hasEntry pR.name = true
  · rw [appendEntry, if_pos hn]
    exact h
  · obtain ⟨hneg, hown⟩ := hb.resolve_left hn
    have hord := (ordered_append_iff h.ordered hn).mpr hneg
    rw [appendEntry, if_neg hn] at hord ⊢
    refine h.save (ordered_setDirty.mp hord) ?_ ?_ ?_
    · rw [List.map_append]
      refine List.nodup_append.mpr ⟨h.cells, List.nodup_singleton _, fun a ha b hb hab => ?_⟩
      obtain rfl := List.mem_singleton.mp hb
      exact hown (hab ▸ ha)
    · intro r hr hd
      rcases List.mem_append.mp hr with hr | hr
      · exact hr
      · obtain rfl := List.mem_singleton.mp hr
        simp [Resolver.setPosition, hnew] at hd
    · intro r hr
      rw [List.map_append]
      exact List.mem_append_left _ (List.mem_map_of_mem hr)

theorem Placed.behind_append (h : Placed s) {pR : Resolver} {hnew : pR.dirty = true}
    (ho : Ordered (s.appendEntry pR).resolvers) (hr : Restored (s.appendEntry pR)) :
    s.Behind (.append pR hnew) := by
  by_cases hn : s.hasEntry pR.name = true
  · exact .inl hn
  · refine .inr ⟨(ordered_append_iff h.ordered hn).mp ho, ?_⟩
    rw [appendEntry, if_neg hn] at hr
    refine h.nodup_new ?_ hr
    rw [List.map_append]
    exact List.perm_append_singleton _ _

/-- A resolver changes its place with the next one. -/
theorem Placed.swapNext (h : Placed s) (i : Nat) :
    Placed (saveEntries { s with
      resolvers := ResolverModel.renumber (ResolverModel.swapNext i s.resolvers) }) := by
  have hperm := swapNext_perm i s.resolvers
  exact h.renumber (((hperm.map _).nodup_iff).mpr h.ordered.2)
    (((hperm.map _).nodup_iff).mpr h.cells) (fun r hr _ => hperm.subset hr)
    fun r hr => List.mem_map_of_mem (hperm.symm.subset hr)

theorem Placed.toggle (h : Placed s) (idx : Nat) : Placed (s.toggle idx) := by
  rw [ResolverModel.toggle]
  split
  · have hkeep : ∀ {β : Type} (f : Resolver → β), (∀ r : Resolver, f (r.enable !r.enabled) = f r) →
        (s.resolvers.modify idx fun r => r.enable !r.enabled).map f = s.resolvers.map f :=
      fun f hf => map_modify hf _ _
    have hcells := hkeep (cell p) fun _ => rfl
    refine h.save (h.ordered.of_map (hkeep _ fun _ => rfl) (hkeep _ fun _ => rfl)) ?_ ?_ ?_
    · exact hcells ▸ h.cells
    · -- the resolver at `idx` is dirty now
      intro r hr hd
      rcases mem_modify hr with hr | ⟨r₀, -, -, rfl⟩
      · exact hr
      · simp [Resolver.enable] at hd
    · intro r hr
      rw [hcells]
      exact List.mem_map_of_mem hr
  · exact h

theorem Placed.delete (h : Placed s) (idx : Nat) : Placed (s.deleteEntry idx) := by
  rw [deleteEntry]
  split
  · exact h
  · rename_i pR hi
    have hmem := fun r => mem_eraseIdx_key (r := r) h.cells hi
    have hrows : ∀ row : ResolverRow p, row ∈ (s.rows.filter fun row => row.name ≠
        p.ofText (toUTF8 pR.name)) ↔ row ∈ s.rows ∧ row.name ≠ cell p pR := by
      intro row
      simp [List.mem_filter, cell]
    have hsub := List.eraseIdx_sublist s.resolvers idx
    refine ⟨⟨h.ordered.1.sublist hsub, h.ordered.2.sublist (hsub.map _)⟩,
      fun r hr => h.clean r ((hmem r).mp hr).1, h.cells.sublist (hsub.map _),
      h.rowNames.sublist (List.filter_sublist.map _), ?_, ?_⟩
    · intro row hrow
      obtain ⟨hrow, hne⟩ := (hrows row).mp hrow
      obtain ⟨r, hr, hname⟩ := List.mem_map.mp (h.known row hrow)
      exact List.mem_map.mpr ⟨r, (hmem r).mpr ⟨hr, fun hc => hne (hname ▸ hc)⟩, hname⟩
    · intro r hr
      obtain ⟨hr, hne⟩ := (hmem r).mp hr
      obtain ⟨⟨row, hrow, hname⟩, hall⟩ := h.stored r hr
      exact ⟨⟨row, (hrows row).mpr ⟨hrow, hname ▸ hne⟩, hname⟩,
        fun row hrow hname => hall row ((hrows row).mp hrow).1 hname⟩

/-- **An operation that meets the condition leaves the list placed.** -/
theorem Placed.apply (h : Placed s) {op : ListOp} (hb : s.Behind op) : Placed (s.apply op) := by
  match op with
  | .append pR hnew => exact h.append hnew hb
  | .prepend pR hnew => exact h.prepend hnew hb
  | .moveUp idx =>
      rw [ResolverModel.apply, moveUp]
      split
      · exact h.swapNext _
      · exact h
  | .moveDown idx =>
      rw [ResolverModel.apply, moveDown]
      split
      · exact h.swapNext _
      · exact h
  | .toggle idx => exact h.toggle idx
  | .delete idx => exact h.delete idx

/-- And one that does not, leaves it out of order or not restored. -/
theorem Placed.apply_iff (h : Placed s) (op : ListOp) :
    Ordered (s.apply op).resolvers ∧ Restored (s.apply op) ↔ s.Behind op := by
  constructor
  · rintro ⟨ho, hr⟩
    match op with
    | .append pR hnew => exact h.behind_append ho hr
    | .prepend pR hnew => exact h.behind_prepend hr
    | .moveUp _ | .moveDown _ | .toggle _ | .delete _ => exact trivial
  · intro hb
    exact ⟨(h.apply hb).ordered, (h.apply hb).restored⟩

/-! ### The run -/

/-- **The positions increase strictly, the names differ, and reading the saved table in the order of
its positions gives the order shown, after every operation, exactly when each new name has a row of
its own, and each that is appended comes behind negative positions only.** -/
theorem ordered_iff (s : ResolverModel p) (hl : Loaded s) (h : Ordered s.resolvers)
    (ops : List ListOp) :
    (∀ pre post, ops = pre ++ post →
      Ordered (run apply s pre).resolvers ∧ Restored (run apply s pre)) ↔
        Along apply Behind s ops := by
  have hs := hl.placed h
  rw [← along_after_iff (S := fun s : ResolverModel p => Ordered s.resolvers ∧ Restored s)
    ⟨h, hs.restored⟩]
  exact along_congr (fun s op hs hb => hs.apply hb) (fun s op hs => hs.apply_iff op) hs

/-- A resolver imported into the empty list, another one in front of it, and the order changed. -/
theorem ordered_iff_prepended :
    Ordered (run apply (fresh sqlitePlatform)
        [.append (.ofFile "a" "" "") rfl, .prepend (.ofBook (1, "b")) rfl, .moveUp 1]).resolvers ∧
      Restored (run apply (fresh sqlitePlatform)
        [.append (.ofFile "a" "" "") rfl, .prepend (.ofBook (1, "b")) rfl, .moveUp 1]) :=
  (ordered_iff (fresh sqlitePlatform) ⟨[], ⟨.refl _, .nil⟩, rfl, nofun⟩ (by decide) _).mpr
    (by decide) _ [] (List.append_nil _).symm

/-- The second resolver that is imported has the position of the first, and they may be read in
either order.  A book with the name `007` shares the row of a resolver with the name `7`. -/
theorem appended_position_tied :
    ¬ Ordered (run apply (fresh sqlitePlatform)
        [.append (.ofFile "a" "" "") rfl, .append (.ofFile "b" "" "") rfl]).resolvers ∧
      ¬ Restored (run apply (fresh sqlitePlatform)
        [.append (.ofFile "a" "" "") rfl, .append (.ofFile "b" "" "") rfl]) ∧
      ¬ Restored (run apply (fresh sqlitePlatform)
        [.append (.ofFile "7" "" "") rfl, .prepend (.ofBook (1, "007")) rfl]) := by
  refine ⟨by decide, fun h => ?_, fun h => ?_⟩
  · exact absurd (h [⟨.inr "b", .onlineRegex, 0, 1, some "", some ""⟩,
      ⟨.inr "a", .onlineRegex, 0, 1, some "", some ""⟩] (by decide)) (by decide)
  · exact absurd (h [⟨.inl 7, .onlineRegex, 1, 1, some "", some ""⟩] (by decide)) (by decide)

end ResolverModel
end Cmon
