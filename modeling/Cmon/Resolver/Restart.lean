import Cmon.Library.Run
import Cmon.Resolver.Model

/-!
# Resolver — a restart

What the next start makes of the saved list.  The list, the table, `loadResolvers` and the loop
of `OnInit` each have their own idea of what a resolver is: a name, a number in a column, the
text of a UUID, the display name of a book.

* `Reloads`: however the next start reads the rows, with the same address books registered, it
  gets the same list, and each book ends up with exactly one resolver, which is bound to it.
* `InStep` is the invariant that ties the table to the list, `InStep.save` says that a save
  restores it after any change of the list that keeps its resolvers.
* `reloads_of_identified`: every state is `Reloads` along a run in which those ideas agree
  (`Identified`).
-/

namespace Cmon
open Library

namespace ResolverModel
variable {p : ResolverPlatform} {books : Books}

/-! ### The property and the condition -/

/-- Each registered book has one resolver, by its binding and by its name. -/
def OneEach (s : ResolverModel p) : Prop :=
  ∀ b ∈ s.books.entries, ∃ r ∈ s.resolvers, r.book = some b.1 ∧
    ∀ r' ∈ s.resolvers, r'.book = some b.1 ∨ r'.name = b.2 → r' = r

/-- The next start, with the same address books, gives the list back. -/
def Reloads (s : ResolverModel p) : Prop :=
  ∀ order, Allowed s.rows order →
    order.map (loadRow p s.books) = s.resolvers ∧ OneEach (s.start s.books order)

/-- The column gives the name back. -/
def Returned (p : ResolverPlatform) (name : String) : Prop :=
  p.toText (p.ofText (toUTF8 name)) = name

instance (p : ResolverPlatform) (name : String) : Decidable (Returned p name) :=
  inferInstanceAs (Decidable (_ = _))

/-- A name is that of a registered book if and only if the resolver is that book's. -/
def OwnName (p : ResolverPlatform) (books : Books) (name : String) : ResolverType → Prop
  | .addressbook => ∀ b ∈ books.entries, p.guid name = b.1 → name = b.2
  | .onlineRegex => ∀ b ∈ books.entries, name ≠ b.2

instance (p : ResolverPlatform) (books : Books) (name : String) :
    ∀ type, Decidable (OwnName p books name type)
  | .addressbook => inferInstanceAs (Decidable (∀ b ∈ books.entries, p.guid name = b.1 → name = b.2))
  | .onlineRegex => inferInstanceAs (Decidable (∀ b ∈ books.entries, name ≠ b.2))

/-- The name of a resolver is returned, and fits the registered books. -/
def Fits (p : ResolverPlatform) (books : Books) (r : Resolver) : Prop :=
  Returned p r.name ∧ OwnName p books r.name r.type

instance (p : ResolverPlatform) (books : Books) (r : Resolver) : Decidable (Fits p books r) :=
  inferInstanceAs (Decidable (_ ∧ _))

/-- The names identify the resolvers at a step: registered books have the text of their UUID for a
name, and no other resolver has it; an imported resolver that is not in the list yet has a name of
its own and comes into an empty list; a resolver without its book is not switched on. -/
def Identified (s : ResolverModel p) : Event p → Prop
  | .start books _ =>
      (∀ b ∈ books.entries, p.guid b.2 = b.1 ∧ Returned p b.2) ∧
        ∀ r ∈ s.resolvers, Fits p books r
  | .append name url regEx =>
      s.hasEntry name ∨ s.resolvers = [] ∧ Returned p name ∧ (∀ b ∈ s.books.entries, name ≠ b.2) ∧
        toUTF8 url = url ∧ toUTF8 regEx = regEx
  | .toggle idx => ∀ r ∈ s.resolvers[idx]?, r.type = .addressbook → r.book ≠ none
  | .moveUp _ | .moveDown _ | .delete _ => True

instance (s : ResolverModel p) : ∀ ev, Decidable (s.Identified ev)
  | .start books _ => inferInstanceAs (Decidable
      ((∀ b ∈ books.entries, p.guid b.2 = b.1 ∧ Returned p b.2) ∧ ∀ r ∈ s.resolvers, Fits p books r))
  | .append name url regEx => inferInstanceAs (Decidable
      (s.hasEntry name ∨ s.resolvers = [] ∧ Returned p name ∧ (∀ b ∈ s.books.entries, name ≠ b.2) ∧
        toUTF8 url = url ∧ toUTF8 regEx = regEx))
  | .toggle idx => inferInstanceAs (Decidable
      (∀ r ∈ s.resolvers[idx]?, r.type = .addressbook → r.book ≠ none))
  | .moveUp _ | .moveDown _ | .delete _ => isTrue trivial

/-! ### A resolver and its row -/

/-- The name in the column. -/
def cell (p : ResolverPlatform) (r : Resolver) : p.Cell := p.ofText (toUTF8 r.name)

/-- The row that is inserted for a resolver. -/
def written (p : ResolverPlatform) (r : Resolver) : ResolverRow p :=
  match r.type with
  | .addressbook => ⟨cell p r, r.type, r.position, if r.enabled then 1 else 0, none, none⟩
  | .onlineRegex => ⟨cell p r, r.type, r.position, if r.enabled then 1 else 0,
      some (toUTF8 r.url), some (toUTF8 r.regEx)⟩

/-- The row after it has been updated for a resolver. -/
def overwritten (p : ResolverPlatform) (r : Resolver) (row : ResolverRow p) : ResolverRow p :=
  let enabled := if r.enabled then 1 else 0
  match r.type with
  | .addressbook => { row with type := r.type, pos := r.position, enabled }
  | .onlineRegex =>
      { row with
        type := r.type
        pos := r.position
        enabled
        v1 := some (toUTF8 r.url)
        v2 := some (toUTF8 r.regEx) }

theorem written_name (r : Resolver) : (written p r).name = cell p r := by
  rw [written]
  cases r.type <;> rfl

theorem overwritten_name (r : Resolver) (row : ResolverRow p) :
    (overwritten p r row).name = row.name := by
  rw [overwritten]
  cases r.type <;> rfl

theorem saveEntry_eq_upsert (rows : List (ResolverRow p)) (r : Resolver) :
    saveEntry rows r = Table.upsert (·.name) (written p r) (overwritten p r) rows := by
  obtain ⟨type, _⟩ := r
  cases type <;> rfl

/-- A resolver that `loadRow` would make: it fits, and is bound to the book its name is the UUID
of, if that is registered. -/
def Loadable (p : ResolverPlatform) (books : Books) (r : Resolver) : Prop :=
  Fits p books r ∧ match r.type with
    | .addressbook => r.book = (books.find? (p.guid r.name)).map (fun _ => p.guid r.name) ∧
        (r.book = none → r.enabled = false) ∧ r.url = "" ∧ r.regEx = ""
    | .onlineRegex => r.book = none ∧ toUTF8 r.url = r.url ∧ toUTF8 r.regEx = r.regEx

theorem loadRow_position (books : Books) (row : ResolverRow p) :
    (loadRow p books row).position = row.pos := by
  rw [loadRow]
  cases row.type <;> rfl

theorem loadRow_name (books : Books) (row : ResolverRow p) :
    (loadRow p books row).name = p.toText row.name := by
  rw [loadRow]
  cases row.type <;> rfl

theorem loadRow_clean (books : Books) (row : ResolverRow p) :
    (loadRow p books row).dirty = false := by
  rw [loadRow]
  cases row.type <;> rfl

/-- A row with the name, type, position, flag and texts of a loadable resolver is read as it. -/
theorem loadRow_of_loadable {r : Resolver} (h : Loadable p books r) {row : ResolverRow p}
    (hname : row.name = cell p r) (htype : row.type = r.type) (hpos : row.pos = r.position)
    (henabled : row.enabled = if r.enabled then 1 else 0)
    (hv : r.type = .onlineRegex → row.v1 = some (toUTF8 r.url) ∧ row.v2 = some (toUTF8 r.regEx)) :
    loadRow p books row = r.setDirty false := by
  obtain ⟨⟨hret, -⟩, hrest⟩ := h
  have htext : p.toText row.name = r.name := by rw [hname]; exact hret
  obtain ⟨type, enabled, dirty, position, name, book, url, regEx⟩ := r
  obtain ⟨cellName, rowType, pos, rowEnabled, v1, v2⟩ := row
  simp only at hname htype hpos henabled hv hrest htext
  subst htype hpos henabled
  cases rowType with
  | addressbook =>
      obtain ⟨rfl, hoff, rfl, rfl⟩ := hrest
      simp only [loadRow, Resolver.setDirty, htext, Resolver.mk.injEq, true_and, and_true]
      cases hb : books.find? (p.guid name) with
      | none => simp [hoff (by simp [hb])]
      | some b => cases enabled <;> simp
  | onlineRegex =>
      obtain ⟨rfl, hurl, hregEx⟩ := hrest
      obtain ⟨rfl, rfl⟩ := hv rfl
      simp only [loadRow, Resolver.setDirty, htext, Option.getD_some, hurl, hregEx]
      cases enabled <;> simp

theorem loadRow_written {r : Resolver} (h : Loadable p books r) :
    loadRow p books (written p r) = r.setDirty false := by
  refine loadRow_of_loadable h (written_name r) ?_ ?_ ?_ fun hr => ?_
  all_goals unfold written
  · cases r.type <;> rfl
  · cases r.type <;> rfl
  · cases r.type <;> rfl
  · rw [hr]
    exact ⟨rfl, rfl⟩

theorem loadRow_overwritten {r : Resolver} (h : Loadable p books r) {row : ResolverRow p}
    (hname : row.name = cell p r) : loadRow p books (overwritten p r row) = r.setDirty false := by
  refine loadRow_of_loadable h ((overwritten_name r row).trans hname) ?_ ?_ ?_ fun hr => ?_
  all_goals unfold overwritten
  · cases r.type <;> rfl
  · cases r.type <;> rfl
  · cases r.type <;> rfl
  · rw [hr]
    exact ⟨rfl, rfl⟩

/-! ### Saving the list -/

/-- The table has a row for the resolver, and `Q` holds of every such row. -/
def StoredAs (Q : Resolver → ResolverRow p → Prop) (rows : List (ResolverRow p)) (r : Resolver) :
    Prop :=
  (∃ row ∈ rows, row.name = cell p r) ∧ ∀ row ∈ rows, row.name = cell p r → Q r row

/-- `Q` holds of what is written of the resolver. -/
def Writes (Q : Resolver → ResolverRow p → Prop) (r : Resolver) : Prop :=
  Q r (written p r) ∧ ∀ row : ResolverRow p, row.name = cell p r → Q r (overwritten p r row)

/-- The table has a row for the resolver, and every such row is read as it. -/
def Stores (books : Books) : List (ResolverRow p) → Resolver → Prop :=
  StoredAs fun r row => loadRow p books row = r.setDirty false

section
variable {rows : List (ResolverRow p)} {r r' : Resolver} {l : List Resolver}
variable {Q : Resolver → ResolverRow p → Prop}

theorem writes_of_loadable (h : Loadable p books r) :
    Writes (fun r row => loadRow p books row = r.setDirty false) r :=
  ⟨loadRow_written h, fun _ hname => loadRow_overwritten h hname⟩

theorem overwritten_key (r : Resolver) (row : ResolverRow p)
    (h : row.name = (written p r).name) : (overwritten p r row).name = (written p r).name :=
  (overwritten_name r row).trans h

theorem storedAs_saveEntry (h : Writes Q r) (rows : List (ResolverRow p)) :
    StoredAs Q (saveEntry rows r) r := by
  rw [saveEntry_eq_upsert]
  constructor
  · obtain ⟨row, hrow, hname⟩ := Table.exists_upsert rows (overwritten_key r)
    exact ⟨row, hrow, hname.trans (written_name r)⟩
  · intro row hrow hname
    rcases Table.exists_of_mem_upsert hrow (hname.trans (written_name r).symm) with
      rfl | ⟨row₀, -, hname₀, rfl⟩
    · exact h.1
    · exact h.2 row₀ (hname₀.trans (written_name r))

theorem storedAs_saveEntry_of_ne (hne : cell p r' ≠ cell p r) (h : StoredAs Q rows r') :
    StoredAs Q (saveEntry rows r) r' := by
  have hiff : ∀ row : ResolverRow p, row.name = cell p r' →
      (row ∈ saveEntry rows r ↔ row ∈ rows) := by
    intro row hrow
    rw [saveEntry_eq_upsert]
    exact Table.mem_upsert_of_ne (overwritten_key r) (hrow ▸ (written_name r).symm ▸ hne)
  obtain ⟨⟨row, hrow, hname⟩, hall⟩ := h
  exact ⟨⟨row, (hiff row hname).mpr hrow, hname⟩,
    fun row hrow hname => hall row ((hiff row hname).mp hrow) hname⟩

/-- `saveEntries`, on the rows. -/
def saveAll (rows : List (ResolverRow p)) (l : List Resolver) : List (ResolverRow p) :=
  l.foldl (fun rows r => if r.dirty then saveEntry rows r else rows) rows

theorem saveAll_cons (rows : List (ResolverRow p)) (r : Resolver) (l : List Resolver) :
    saveAll rows (r :: l) = saveAll (if r.dirty then saveEntry rows r else rows) l := rfl

theorem storedAs_saveAll_of_ne (hne : ∀ r' ∈ l, cell p r ≠ cell p r') (h : StoredAs Q rows r) :
    StoredAs Q (saveAll rows l) r := by
  induction l generalizing rows with
  | nil => exact h
  | cons r' l ih =>
      rw [saveAll_cons]
      refine ih (fun r'' hr => hne r'' (.tail _ hr)) ?_
      split_ifs
      · exact storedAs_saveEntry_of_ne (hne r' (.head _)) h
      · exact h

/-- After a save every resolver of the list has its row, when the clean ones had theirs. -/
theorem storedAs_saveAll (hcells : (l.map (cell p)).Nodup) (hl : ∀ r ∈ l, Writes Q r)
    (hclean : ∀ r ∈ l, r.dirty = false → StoredAs Q rows r) :
    ∀ r ∈ l, StoredAs Q (saveAll rows l) r := by
  induction l generalizing rows with
  | nil => exact fun r hr => absurd hr List.not_mem_nil
  | cons r₀ l ih =>
      obtain ⟨hnot, hcells⟩ := List.nodup_cons.mp hcells
      have hne : ∀ r ∈ l, cell p r₀ ≠ cell p r := fun r hr e => hnot (e ▸ List.mem_map_of_mem hr)
      have hfirst : StoredAs Q (if r₀.dirty then saveEntry rows r₀ else rows) r₀ := by
        split_ifs with hd
        · exact storedAs_saveEntry (hl r₀ (.head _)) rows
        · exact hclean r₀ (.head _) (by simpa using hd)
      intro r hr
      rw [saveAll_cons]
      rcases List.mem_cons.mp hr with rfl | hr
      · exact storedAs_saveAll_of_ne hne hfirst
      · refine ih hcells (fun r hr => hl r (.tail _ hr)) (fun r hr hd => ?_) r hr
        have hold := hclean r (.tail _ hr) hd
        split_ifs
        · exact storedAs_saveEntry_of_ne (hne r hr).symm hold
        · exact hold

theorem nodup_saveAll (h : (rows.map (·.name)).Nodup) : ((saveAll rows l).map (·.name)).Nodup := by
  induction l generalizing rows with
  | nil => exact h
  | cons r l ih =>
      rw [saveAll_cons]
      refine ih ?_
      split_ifs
      · rw [saveEntry_eq_upsert]
        exact Table.nodup_upsert (overwritten_key r) h
      · exact h

/-- A save adds rows of resolvers of the list only. -/
theorem names_saveAll {P : p.Cell → Prop} (hrows : ∀ row ∈ rows, P row.name)
    (hl : ∀ r ∈ l, P (cell p r)) : ∀ row ∈ saveAll rows l, P row.name := by
  induction l generalizing rows with
  | nil => exact hrows
  | cons r l ih =>
      rw [saveAll_cons]
      refine ih ?_ fun r' hr => hl r' (.tail _ hr)
      split_ifs
      · intro row hrow
        by_cases hname : row.name = cell p r
        · exact hname ▸ hl r (.head _)
        · rw [saveEntry_eq_upsert] at hrow
          rw [← written_name] at hname
          exact hrows row ((Table.mem_upsert_of_ne (overwritten_key r) hname).mp hrow)
      · exact hrows

end

/-! ### The invariant -/

/-- The table and the list are in step. -/
structure InStep (s : ResolverModel p) : Prop where
  books : ∀ b ∈ s.books.entries, p.guid b.2 = b.1 ∧ Returned p b.2
  loadable : ∀ r ∈ s.resolvers, Loadable p s.books r
  clean : ∀ r ∈ s.resolvers, r.dirty = false
  names : (s.resolvers.map (·.name)).Nodup
  sorted : s.resolvers.Pairwise (·.position < ·.position)
  rowNames : (s.rows.map (·.name)).Nodup
  known : ∀ row ∈ s.rows, ∃ r ∈ s.resolvers, row.name = cell p r
  stores : ∀ r ∈ s.resolvers, Stores s.books s.rows r

theorem InStep.fresh : InStep (ResolverModel.fresh p) where
  books _ h := absurd h List.not_mem_nil
  loadable _ h := absurd h List.not_mem_nil
  clean _ h := absurd h List.not_mem_nil
  names := List.nodup_nil
  sorted := .nil
  rowNames := List.nodup_nil
  known _ h := absurd h List.not_mem_nil
  stores _ h := absurd h List.not_mem_nil

/-- Names that are returned have cells of their own. -/
theorem cell_inj {r r' : Resolver} (h : Loadable p books r) (h' : Loadable p books r')
    (hc : cell p r = cell p r') : r.name = r'.name :=
  (h.1.1.symm.trans (congrArg p.toText hc)).trans h'.1.1

theorem nodup_cells {l : List Resolver} (hl : ∀ r ∈ l, Loadable p books r)
    (h : (l.map (·.name)).Nodup) : (l.map (cell p)).Nodup := by
  rw [List.Nodup, List.pairwise_map] at h ⊢
  exact h.imp_of_mem fun hr hr' hne hc => hne (cell_inj (hl _ hr) (hl _ hr') hc)

section
variable {s : ResolverModel p}

theorem InStep.eq_of_name (h : InStep s) {r r' : Resolver} (hr : r ∈ s.resolvers)
    (hr' : r' ∈ s.resolvers) (hn : r.name = r'.name) : r = r' :=
  List.inj_on_of_nodup_map h.names hr hr' hn

/-- A row is read as the resolver of its name. -/
theorem InStep.load_mem (h : InStep s) {row : ResolverRow p} (hrow : row ∈ s.rows) :
    loadRow p s.books row ∈ s.resolvers := by
  obtain ⟨r, hr, hname⟩ := h.known row hrow
  have hload := (h.stores r hr).2 row hrow hname
  have hclean : r.setDirty false = r := by
    rw [← h.clean r hr]
    rfl
  rwa [hload, hclean]

/-- A row has the name that its resolver is saved under. -/
theorem InStep.cell_loadRow (h : InStep s) {row : ResolverRow p} (hrow : row ∈ s.rows)
    (books : Books) : row.name = cell p (loadRow p books row) := by
  obtain ⟨r, hr, hname⟩ := h.known row hrow
  have hr' : r.name = p.toText row.name := by
    rw [hname]
    exact (h.loadable r hr).1.1.symm
  rw [cell, loadRow_name, ← hr']
  exact hname

/-- The rows, read, are the resolvers. -/
theorem InStep.load_perm (h : InStep s) :
    (s.rows.map (loadRow p s.books)).Perm s.resolvers := by
  refine (List.perm_ext_iff_of_nodup ?_ h.names.of_map).mpr fun r => ?_
  · -- rows with another name are read as resolvers with another name
    refine List.Nodup.map_on (fun row hrow row' hrow' heq => ?_) h.rowNames.of_map
    refine List.inj_on_of_nodup_map h.rowNames hrow hrow' ?_
    calc row.name = cell p (loadRow p s.books row) := h.cell_loadRow hrow _
      _ = cell p (loadRow p s.books row') := congrArg (cell p) heq
      _ = row'.name := (h.cell_loadRow hrow' _).symm
  · constructor
    · intro hr
      obtain ⟨row, hrow, rfl⟩ := List.mem_map.mp hr
      exact h.load_mem hrow
    · intro hr
      obtain ⟨⟨row, hrow, hname⟩, hall⟩ := h.stores r hr
      refine List.mem_map.mpr ⟨row, hrow, (hall row hrow hname).trans ?_⟩
      rw [← h.clean r hr]
      rfl

/-- **A save after a change of the list that keeps its resolvers.** -/
theorem InStep.save (h : InStep s) {l : List Resolver} (hl : ∀ r ∈ l, Loadable p s.books r)
    (hnames : (l.map (·.name)).Nodup) (hsorted : l.Pairwise (·.position < ·.position))
    (hclean : ∀ r ∈ l, r.dirty = false → r ∈ s.resolvers)
    (hkept : ∀ r ∈ s.resolvers, r.name ∈ l.map (·.name)) :
    InStep (saveEntries { s with resolvers := l }) := by
  have hstores : ∀ r ∈ l, Stores s.books (saveAll s.rows l) r :=
    storedAs_saveAll (nodup_cells hl hnames) (fun r hr => writes_of_loadable (hl r hr))
      fun r hr hd => h.stores r (hclean r hr hd)
  refine ⟨h.books, ?_, ?_, ?_, ?_, nodup_saveAll h.rowNames, ?_, ?_⟩
  · intro r hr
    obtain ⟨r₀, hr₀, rfl⟩ := List.mem_map.mp hr
    exact hl r₀ hr₀
  · intro r hr
    obtain ⟨r₀, -, rfl⟩ := List.mem_map.mp hr
    rfl
  · show ((l.map (·.setDirty false)).map (·.name)).Nodup
    rw [List.map_map]
    exact hnames
  · exact List.pairwise_map.mpr hsorted
  · refine names_saveAll (P := fun c => ∃ r ∈ l.map (·.setDirty false), c = cell p r)
      (fun row hrow => ?_) fun r hr => ?_
    · obtain ⟨r, hr, hname⟩ := h.known row hrow
      obtain ⟨r', hr', hname'⟩ := List.mem_map.mp (hkept r hr)
      refine ⟨r'.setDirty false, List.mem_map_of_mem hr', hname.trans ?_⟩
      show p.ofText (toUTF8 r.name) = p.ofText (toUTF8 r'.name)
      rw [hname']
    · exact ⟨r.setDirty false, List.mem_map_of_mem hr, rfl⟩
  · intro r hr
    obtain ⟨r₀, hr₀, rfl⟩ := List.mem_map.mp hr
    exact hstores r₀ hr₀

/-! ### The operations -/

theorem renumber_names (l : List Resolver) :
    (renumber l).map (·.name) = l.map (·.name) := by
  refine List.ext_getElem (by simp [renumber]) ?_
  intro i _ _
  simp [renumber, Resolver.setPosition]

theorem sorted_renumber (l : List Resolver) :
    (renumber l).Pairwise (·.position < ·.position) := by
  refine List.pairwise_iff_getElem.mpr ?_
  intro i j hi hj hij
  simpa [renumber, Resolver.setPosition] using hij

theorem mem_renumber {l : List Resolver} {r : Resolver} (h : r ∈ renumber l) :
    ∃ r₀ ∈ l, ∃ pos, r = r₀.setPosition pos := by
  obtain ⟨i, hi, rfl⟩ := List.mem_mapIdx.mp h
  exact ⟨_, List.getElem_mem hi, i, rfl⟩

/-- A resolver that is not dirty after its position was set has it already. -/
theorem setPosition_clean {r : Resolver} {pos : Int} (h : (r.setPosition pos).dirty = false) :
    r.setPosition pos = r ∧ r.dirty = false := by
  simp only [Resolver.setPosition, Bool.or_eq_false_iff, bne_eq_false_iff_eq] at h
  obtain ⟨hd, rfl⟩ := h
  refine ⟨?_, hd⟩
  obtain ⟨type, enabled, dirty, position, name, book, url, regEx⟩ := r
  simp only [Resolver.setPosition, bne_self_eq_false, Bool.or_false]

/-- Another order of the list, counted anew. -/
theorem InStep.renumber (h : InStep s) {l : List Resolver} (hl : ∀ r ∈ l, Loadable p s.books r)
    (hnames : (l.map (·.name)).Nodup) (hclean : ∀ r ∈ l, r.dirty = false → r ∈ s.resolvers)
    (hkept : ∀ r ∈ s.resolvers, r.name ∈ l.map (·.name)) :
    InStep (saveEntries { s with resolvers := ResolverModel.renumber l }) := by
  refine h.save ?_ ?_ (sorted_renumber l) ?_ ?_
  · intro r hr
    obtain ⟨r₀, hr₀, pos, rfl⟩ := mem_renumber hr
    exact hl r₀ hr₀
  · rwa [renumber_names]
  · intro r hr hd
    obtain ⟨r₀, hr₀, pos, rfl⟩ := mem_renumber hr
    obtain ⟨hsame, hd₀⟩ := setPosition_clean hd
    rw [hsame]
    exact hclean r₀ hr₀ hd₀
  · rwa [renumber_names]

theorem swapNext_perm (i : Nat) (l : List Resolver) : (swapNext i l).Perm l := by
  induction i generalizing l with
  | zero =>
      match l with
      | [] | [_] => exact .refl _
      | a :: b :: l => exact .swap a b l
  | succ i ih =>
      match l with
      | [] => exact .refl _
      | a :: l => exact (ih l).cons a

theorem InStep.swapNext (h : InStep s) (i : Nat) : InStep (saveEntries
    { s with resolvers := ResolverModel.renumber (ResolverModel.swapNext i s.resolvers) }) := by
  have hperm := swapNext_perm i s.resolvers
  refine h.renumber (fun r hr => h.loadable r (hperm.subset hr)) ?_
    (fun r hr _ => hperm.subset hr) fun r hr => ?_
  · exact ((hperm.map _).nodup_iff).mpr h.names
  · exact List.mem_map_of_mem (hperm.symm.subset hr)

theorem hasEntry_iff {name : String} : s.hasEntry name = true ↔ name ∈ s.resolvers.map (·.name) := by
  simp [hasEntry]

theorem InStep.prepend (h : InStep s) {r : Resolver} (hr : Loadable p s.books r)
    (hd : r.dirty = true) : InStep (s.prependEntry r) := by
  rw [prependEntry]
  split_ifs with hhas
  · exact h
  · refine h.renumber ?_ ?_ ?_ fun r' hr' => .tail _ (List.mem_map_of_mem hr')
    · intro r' hr'
      rcases List.mem_cons.mp hr' with rfl | hr'
      · exact hr
      · exact h.loadable r' hr'
    · exact List.nodup_cons.mpr ⟨mt hasEntry_iff.mpr hhas, h.names⟩
    · intro r' hr' hd'
      rcases List.mem_cons.mp hr' with rfl | hr'
      · rw [hd] at hd'
        cases hd'
      · exact hr'

theorem InStep.append (h : InStep s) {r : Resolver} (hempty : s.resolvers = [])
    (hr : Loadable p s.books r) (hd : r.dirty = true) : InStep (s.appendEntry r) := by
  rw [appendEntry]
  split_ifs
  · exact h
  · rw [hempty]
    dsimp only
    rw [List.foldl_nil, List.nil_append]
    refine h.save ?_ (List.nodup_singleton _) (List.pairwise_singleton _ _) ?_ ?_
    · rintro r' hr'
      obtain rfl := List.mem_singleton.mp hr'
      exact hr
    · intro r' hr' hd'
      obtain rfl := List.mem_singleton.mp hr'
      simp [Resolver.setPosition, hd] at hd'
    · rw [hempty]
      exact fun _ h => absurd h List.not_mem_nil

/-- An element of a list that was changed in one place. -/
theorem mem_modify {l : List Resolver} {i : Nat} {f : Resolver → Resolver} {r : Resolver}
    (h : r ∈ l.modify i f) : r ∈ l ∨ ∃ r₀, l[i]? = some r₀ ∧ r₀ ∈ l ∧ r = f r₀ := by
  obtain ⟨j, hj⟩ := List.mem_iff_getElem?.mp h
  rw [List.getElem?_modify] at hj
  split at hj
  · rename_i hij
    subst hij
    obtain ⟨r₀, hr₀, rfl⟩ := Option.map_eq_some_iff.mp hj
    exact .inr ⟨r₀, hr₀, List.mem_of_getElem? hr₀, rfl⟩
  · exact .inl (List.mem_of_getElem? (by simpa using hj))

theorem map_modify {α : Type} {g : Resolver → α} {f : Resolver → Resolver}
    (hfg : ∀ r, g (f r) = g r) (l : List Resolver) (i : Nat) : (l.modify i f).map g = l.map g := by
  refine List.ext_getElem (by simp) ?_
  intro j hj _
  rw [List.getElem_map, List.getElem_map, List.getElem_modify]
  split
  · exact hfg _
  · rfl

theorem InStep.toggle (h : InStep s) {idx : Nat}
    (hbook : ∀ r ∈ s.resolvers[idx]?, r.type = .addressbook → r.book ≠ none) :
    InStep (s.toggle idx) := by
  have hnames : (s.resolvers.modify idx fun r => r.enable (!r.enabled)).map (·.name) =
      s.resolvers.map (·.name) := map_modify (fun r => by rfl) s.resolvers idx
  rw [ResolverModel.toggle]
  split_ifs
  · refine h.save ?_ ?_ ?_ ?_ ?_
    · intro r hr
      rcases mem_modify hr with hr | ⟨r₀, hi, hr₀, rfl⟩
      · exact h.loadable r hr
      · have hb := hbook r₀ hi
        obtain ⟨hfits, hrest⟩ := h.loadable r₀ hr₀
        obtain ⟨type, enabled, dirty, position, name, book, url, regEx⟩ := r₀
        refine ⟨hfits, ?_⟩
        cases type with
        | addressbook => exact ⟨hrest.1, fun e => absurd e (hb rfl), hrest.2.2⟩
        | onlineRegex => exact hrest
    · exact hnames ▸ h.names
    · have hpos : (s.resolvers.modify idx fun r => r.enable (!r.enabled)).map (·.position) =
          s.resolvers.map (·.position) := map_modify (fun r => by rfl) s.resolvers idx
      have hold := List.pairwise_map.mpr h.sorted
      exact List.pairwise_map.mp (hpos ▸ hold)
    · -- the resolver at `idx` is dirty now
      intro r hr hd
      rcases mem_modify hr with hr | ⟨r₀, -, -, rfl⟩
      · exact hr
      · simp [Resolver.enable] at hd
    · intro r hr
      rw [hnames]
      exact List.mem_map_of_mem hr
  · exact h

/-- What is left when an element is erased has other names. -/
theorem mem_eraseIdx_key {β : Type} {f : Resolver → β} {l : List Resolver} (hl : (l.map f).Nodup)
    {i : Nat} {r₀ r : Resolver} (hi : l[i]? = some r₀) :
    r ∈ l.eraseIdx i ↔ r ∈ l ∧ f r ≠ f r₀ := by
  induction l generalizing i with
  | nil => simp at hi
  | cons a l ih =>
      obtain ⟨hnot, hl⟩ := List.nodup_cons.mp hl
      cases i with
      | zero =>
          obtain rfl : a = r₀ := by simpa using hi
          rw [List.eraseIdx_cons_zero, List.mem_cons]
          constructor
          · exact fun hr => ⟨.inr hr, fun hn => hnot (List.mem_map.mpr ⟨r, hr, hn⟩)⟩
          · rintro ⟨rfl | hr, hn⟩
            · exact absurd rfl hn
            · exact hr
      | succ i =>
          have hi : l[i]? = some r₀ := by simpa using hi
          rw [List.eraseIdx_cons_succ, List.mem_cons, List.mem_cons, ih hl hi]
          constructor
          · rintro (rfl | ⟨hr, hn⟩)
            · exact ⟨.inl rfl, fun hn =>
                hnot (List.mem_map.mpr ⟨r₀, List.mem_of_getElem? hi, hn.symm⟩)⟩
            · exact ⟨.inr hr, hn⟩
          · rintro ⟨rfl | hr, hn⟩
            · exact .inl rfl
            · exact .inr ⟨hr, hn⟩

theorem InStep.delete (h : InStep s) (idx : Nat) : InStep (s.deleteEntry idx) := by
  rw [deleteEntry]
  split
  · exact h
  · rename_i pR hi
    have hmem := fun r => mem_eraseIdx_key (r := r) h.names hi
    have hpR := List.mem_of_getElem? hi
    have hcell : ∀ r ∈ s.resolvers, r.name ≠ pR.name → cell p r ≠ cell p pR :=
      fun r hr hn hc => hn (cell_inj (h.loadable r hr) (h.loadable pR hpR) hc)
    have hrows : ∀ row : ResolverRow p, row ∈ (s.rows.filter fun row => row.name ≠
        p.ofText (toUTF8 pR.name)) ↔ row ∈ s.rows ∧ row.name ≠ cell p pR := by
      intro row
      simp [List.mem_filter, cell]
    refine ⟨h.books, fun r hr => h.loadable r ((hmem r).mp hr).1,
      fun r hr => h.clean r ((hmem r).mp hr).1, ?_, ?_, ?_, ?_, ?_⟩
    · exact h.names.sublist ((List.eraseIdx_sublist _ _).map _)
    · exact h.sorted.sublist (List.eraseIdx_sublist _ _)
    · exact h.rowNames.sublist (List.filter_sublist.map _)
    · intro row hrow
      obtain ⟨hrow, hne⟩ := (hrows row).mp hrow
      obtain ⟨r, hr, hname⟩ := h.known row hrow
      refine ⟨r, (hmem r).mpr ⟨hr, fun hn => hne ?_⟩, hname⟩
      rw [hname, cell, hn, cell]
    · intro r hr
      obtain ⟨hr, hn⟩ := (hmem r).mp hr
      obtain ⟨⟨row, hrow, hname⟩, hall⟩ := h.stores r hr
      refine ⟨⟨row, (hrows row).mpr ⟨hrow, ?_⟩, hname⟩,
        fun row hrow hname => hall row ((hrows row).mp hrow).1 hname⟩
      exact hname ▸ hcell r hr hn

/-! ### A start -/

/-- What a row is read as depends on the address books in the binding only. -/
theorem loadRow_books (books books' : Books) (row : ResolverRow p) :
    (loadRow p books' row).type = (loadRow p books row).type ∧
      (loadRow p books' row).name = (loadRow p books row).name ∧
      (loadRow p books' row).url = (loadRow p books row).url ∧
      (loadRow p books' row).regEx = (loadRow p books row).regEx := by
  simp only [loadRow]
  cases row.type <;> exact ⟨rfl, rfl, rfl, rfl⟩

/-- A row that was read as a loadable resolver is read as one with other address books too, if its
name fits them. -/
theorem loadable_loadRow {books' : Books} {row : ResolverRow p}
    (h : Loadable p books (loadRow p books row)) (hfits : Fits p books' (loadRow p books row)) :
    Loadable p books' (loadRow p books' row) := by
  obtain ⟨htype, hname, -, -⟩ := loadRow_books books books' row
  constructor
  · rw [Fits] at hfits ⊢
    rwa [htype, hname]
  · obtain ⟨-, hrest⟩ := h
    obtain ⟨name, type, pos, enabled, v1, v2⟩ := row
    cases type with
    | addressbook =>
        refine ⟨rfl, fun hb => ?_, rfl, rfl⟩
        simp only [loadRow] at hb ⊢
        rw [hb]
        rfl
    | onlineRegex => exact hrest

/-- No two rows have one position. -/
theorem InStep.rowPositions (h : InStep s) : (s.rows.map (·.pos)).Nodup := by
  have hsorted : (s.resolvers.map (·.position)).Nodup :=
    (List.pairwise_map.mpr h.sorted).imp fun hlt => hlt.ne
  have hperm := (h.load_perm.map (·.position)).nodup_iff.mpr hsorted
  rw [List.map_map] at hperm
  exact (List.map_congr_left fun row _ => loadRow_position _ row).subst hperm

/-- The rows in an order in which they may be read, under another set of address books. -/
theorem InStep.load (h : InStep s) {books : Books} {order : List (ResolverRow p)}
    (ho : Allowed s.rows order)
    (hbooks : ∀ b ∈ books.entries, p.guid b.2 = b.1 ∧ Returned p b.2)
    (hfits : ∀ r ∈ s.resolvers, Fits p books r) :
    InStep ⟨s.rows, order.map (loadRow p books), books⟩ := by
  obtain ⟨hperm, hle⟩ := ho
  have hloaded : ∀ r ∈ order.map (loadRow p books), ∃ row ∈ s.rows, r = loadRow p books row := by
    intro r hr
    obtain ⟨row, hrow, rfl⟩ := List.mem_map.mp hr
    exact ⟨row, hperm.subset hrow, rfl⟩
  refine ⟨hbooks, ?_, ?_, ?_, ?_, h.rowNames, ?_, ?_⟩
  · intro r hr
    obtain ⟨row, hrow, rfl⟩ := hloaded r hr
    have hmem := h.load_mem hrow
    exact loadable_loadRow (h.loadable _ hmem) (hfits _ hmem)
  · intro r hr
    obtain ⟨row, -, rfl⟩ := hloaded r hr
    exact loadRow_clean books row
  · have hnames := (h.load_perm.map (·.name)).nodup_iff.mpr h.names
    rw [List.map_map] at hnames ⊢
    refine ((hperm.map _).nodup_iff).mpr ((List.map_congr_left fun row _ => ?_).subst hnames)
    exact (loadRow_name _ row).trans (loadRow_name _ row).symm
  · -- the positions are distinct, so the order of the rows is the only one
    have hne : order.Pairwise fun a b => a.pos ≠ b.pos :=
      List.pairwise_map.mp (((hperm.map _).nodup_iff).mpr h.rowPositions)
    refine List.pairwise_map.mpr ((hle.and hne).imp fun {a b} hab => ?_)
    rw [loadRow_position, loadRow_position]
    exact lt_of_le_of_ne hab.1 hab.2
  · intro row hrow
    exact ⟨_, List.mem_map_of_mem (hperm.symm.subset hrow), h.cell_loadRow hrow books⟩
  · intro r hr
    obtain ⟨row, hrow, rfl⟩ := hloaded r hr
    have hcell := h.cell_loadRow hrow books
    refine ⟨⟨row, hrow, hcell⟩, fun row' hrow' hname => ?_⟩
    rw [List.inj_on_of_nodup_map h.rowNames hrow' hrow (hname.trans hcell.symm)]
    show loadRow p books row = (loadRow p books row).setDirty false
    rw [Resolver.setDirty, ← loadRow_clean books row]

theorem hasEntry_prepend (s : ResolverModel p) (r : Resolver) (name : String) :
    (s.prependEntry r).hasEntry name = true ↔ s.hasEntry name = true ∨ name = r.name := by
  rw [prependEntry]
  split_ifs with hhas
  · exact (or_iff_left_of_imp fun e => e ▸ hhas).symm
  · rw [hasEntry_iff, hasEntry_iff]
    show name ∈ ((ResolverModel.renumber (r :: s.resolvers)).map (·.setDirty false)).map (·.name) ↔ _
    rw [List.map_map]
    show name ∈ (ResolverModel.renumber (r :: s.resolvers)).map (·.name) ↔ _
    rw [renumber_names, List.map_cons, List.mem_cons, or_comm]

theorem prependEntry_books (s : ResolverModel p) (r : Resolver) :
    (s.prependEntry r).books = s.books := by
  rw [prependEntry]
  split_ifs <;> rfl

/-- The resolver that `OnInit` makes for a book with the text of its UUID for a name. -/
theorem loadable_ofBook (hbooks : ∀ b ∈ books.entries, p.guid b.2 = b.1 ∧ Returned p b.2)
    {b : Guid × String} (hb : b ∈ books.entries) : Loadable p books (.ofBook b) := by
  obtain ⟨hid, hret⟩ := hbooks b hb
  have hfind : books.find? b.1 = some b.2 := OrderedMap.mem_entries.mp hb
  refine ⟨⟨hret, fun b' hb' hid' => ?_⟩, ?_, (fun h => by cases h), rfl, rfl⟩
  · have hsame : books.find? b.1 = some b'.2 := by
      rw [← hid, show p.guid b.2 = b'.1 from hid']
      exact OrderedMap.mem_entries.mp hb'
    rw [hfind] at hsame
    exact Option.some.inj hsame
  · show some b.1 = (books.find? (p.guid b.2)).map fun _ => p.guid b.2
    rw [hid, hfind]
    rfl

/-- The loop of `OnInit` leaves a resolver with the name of each book. -/
theorem InStep.resync (h : InStep s) : InStep s.resync ∧ s.resync.books = s.books ∧
    ∀ b ∈ s.books.entries, s.resync.hasEntry b.2 = true := by
  -- the names that are there stay, so each turn keeps what the earlier ones have done
  suffices hloop : ∀ (l : List (Guid × String)) (t : ResolverModel p), InStep t →
      t.books = s.books → (∀ b ∈ l, b ∈ s.books.entries) →
      let t' := l.foldl (fun s b => if s.hasEntry b.2 then s else s.prependEntry (.ofBook b)) t
      InStep t' ∧ t'.books = s.books ∧ (∀ n, t.hasEntry n = true → t'.hasEntry n = true) ∧
        ∀ b ∈ l, t'.hasEntry b.2 = true by
    obtain ⟨hin, hbooks, -, hhas⟩ := hloop s.books.entries s h rfl fun _ hb => hb
    exact ⟨hin, hbooks, hhas⟩
  intro l
  induction l with
  | nil => exact fun t ht hb _ => ⟨ht, hb, fun _ hn => hn, fun _ hb => absurd hb List.not_mem_nil⟩
  | cons b l ih =>
      intro t ht hb hl
      obtain ⟨hbin, hl⟩ := List.forall_mem_cons.mp hl
      rw [List.foldl_cons]
      split_ifs with hhas
      · obtain ⟨hin, hbooks, hkept, hall⟩ := ih t ht hb hl
        exact ⟨hin, hbooks, hkept, List.forall_mem_cons.mpr ⟨hkept _ hhas, hall⟩⟩
      · have hload := loadable_ofBook ht.books (hb ▸ hbin)
        obtain ⟨hin, hbooks, hkept, hall⟩ := ih (t.prependEntry (.ofBook b))
          (ht.prepend hload rfl) ((prependEntry_books t _).trans hb) hl
        refine ⟨hin, hbooks, fun n hn => hkept n ?_, List.forall_mem_cons.mpr ⟨hkept _ ?_, hall⟩⟩
        · exact (hasEntry_prepend t _ n).mpr (.inl hn)
        · exact (hasEntry_prepend t _ _).mpr (.inr rfl)

/-- A list in step that has the names of the books has each book's resolver once. -/
theorem InStep.oneEach (h : InStep s) (hhas : ∀ b ∈ s.books.entries, s.hasEntry b.2 = true) :
    OneEach s := by
  intro b hb
  have hfind : s.books.find? b.1 = some b.2 := OrderedMap.mem_entries.mp hb
  obtain ⟨r, hr, hname⟩ := List.mem_map.mp (hasEntry_iff.mp (hhas b hb))
  -- whichever resolver is bound to the book has the book's name
  have hbound : ∀ r' ∈ s.resolvers, r'.book = some b.1 → r'.name = b.2 := by
    intro r' hr' hbook
    obtain ⟨⟨-, hfits⟩, hrest⟩ := h.loadable r' hr'
    cases htype : r'.type with
    | addressbook =>
        rw [htype] at hfits hrest
        obtain ⟨hb', -⟩ := hrest
        rw [hbook] at hb'
        obtain ⟨-, -, hid⟩ := Option.map_eq_some_iff.mp hb'.symm
        exact hfits b hb hid
    | onlineRegex =>
        rw [htype] at hrest
        rw [hrest.1] at hbook
        cases hbook
  refine ⟨r, hr, ?_, ?_⟩
  · obtain ⟨⟨-, hfits⟩, hrest⟩ := h.loadable r hr
    cases htype : r.type with
    | addressbook =>
        rw [htype] at hrest
        have hid : p.guid r.name = b.1 := hname ▸ (h.books b hb).1
        rw [hrest.1, hid, hfind]
        rfl
    | onlineRegex =>
        rw [htype] at hfits
        exact absurd hname (hfits b hb)
  · rintro r' hr' (hbook | hname')
    · exact h.eq_of_name hr' hr ((hbound r' hr' hbook).trans hname.symm)
    · exact h.eq_of_name hr' hr (hname'.trans hname.symm)

/-- **A list in step with its table is given back by the next start.** -/
theorem InStep.reloads (h : InStep s) : Reloads s := by
  intro order ho
  have hload := h.load ho h.books fun r hr => (h.loadable r hr).1
  constructor
  · -- the same resolvers, in both cases in the order of their positions
    refine List.Perm.eq_of_pairwise (fun a b _ _ hab hba => absurd (hab.trans hba) (lt_irrefl _))
      hload.sorted h.sorted ((ho.1.map _).trans h.load_perm)
  · obtain ⟨hin, hbooks, hhas⟩ := hload.resync
    exact hin.oneEach fun b hb => hhas b (hbooks ▸ hb)

/-! ### Runs -/

theorem InStep.step (h : InStep s) {ev : Event p} (hi : s.Identified ev) :
    InStep (s.step ev) := by
  cases ev with
  | start books order =>
      show InStep (if Allowed s.rows order then s.start books order else s)
      split_ifs with ho
      · exact (h.load ho hi.1 hi.2).resync.1
      · exact h
  | append name url regEx =>
      show InStep (s.appendEntry (.ofFile name url regEx))
      rcases hi with hhas | ⟨hempty, hret, hbooks, hurl, hregEx⟩
      · have hold : s.hasEntry (Resolver.ofFile name url regEx).name = true := hhas
        rwa [appendEntry, if_pos hold]
      · exact h.append hempty ⟨⟨hret, hbooks⟩, rfl, hurl, hregEx⟩ rfl
  | moveUp idx =>
      show InStep (s.moveUp idx)
      rw [ResolverModel.moveUp]
      split_ifs
      · exact h.swapNext _
      · exact h
  | moveDown idx =>
      show InStep (s.moveDown idx)
      rw [ResolverModel.moveDown]
      split_ifs
      · exact h.swapNext _
      · exact h
  | toggle idx => exact h.toggle hi
  | delete idx => exact h.delete idx

end

/-- **Along a run in which the names identify the resolvers, the next start gives the list back
and leaves each address book with one resolver.** -/
theorem reloads_of_identified (evs : List (Event p))
    (h : Along ResolverModel.step Identified (ResolverModel.fresh p) evs) :
    Reloads (run ResolverModel.step (ResolverModel.fresh p) evs) :=
  (Along.inv (I := InStep) (fun _ _ hs hi => hs.step hi) InStep.fresh h).reloads

end ResolverModel

/-! ### A platform -/

def hexDigit (c : Char) : Option Nat :=
  if '0' ≤ c ∧ c ≤ '9' then some (c.toNat - '0'.toNat)
  else if 'a' ≤ c ∧ c ≤ 'f' then some (c.toNat - 'a'.toNat + 10)
  else if 'A' ≤ c ∧ c ≤ 'F' then some (c.toNat - 'A'.toNat + 10)
  else none

def readHex (cs : List Char) : Option Nat :=
  cs.foldl (fun acc c => acc.bind fun n => (hexDigit c).map (16 * n + ·)) (some 0)

/-- Hexadecimal digits in groups of 8, 4, 4, 4 and 12, joined by `-`. -/
def readUuid (str : String) : Option Guid :=
  let cs := str.toList
  if cs.length = 36 ∧ [8, 13, 18, 23].all (fun i => cs[i]? = some '-') ∧ cs.count '-' = 4 then
    readHex (cs.filter (· ≠ '-'))
  else none

/-- A text of decimal digits is stored as a number. -/
def sqlitePlatform : ResolverPlatform where
  Cell := Nat ⊕ String
  cellEq := inferInstance
  ofText str := if str = "" then .inr str else (readDigits str.toList).elim (.inr str) .inl
  toText
    | .inl n => n.repr
    | .inr str => str
  uuidFromString := readUuid

def pluginUUIDText : String := "0d9bcab7-6154-4c57-97f2-f6f8920d6d5f"

example : sqlitePlatform.guid pluginUUIDText = pluginUUID := by decide

namespace ResolverModel

/-- A resolver is imported, a book with the text of its UUID for a name is registered, its
resolver is moved behind the other one and switched off. -/
def identifiedRun : List (Event sqlitePlatform) :=
  [.append "tel.example" "http://tel.example" "(.*)",
    .start (OrderedMap.empty.put pluginUUID pluginUUIDText)
      [⟨.inr "tel.example", .onlineRegex, 0, 1, some "http://tel.example", some "(.*)"⟩],
    .moveDown 0, .toggle 1]

theorem reloads_identifiedRun :
    Reloads (run step (fresh sqlitePlatform) identifiedRun) :=
  reloads_of_identified identifiedRun (by decide)

/-- The first start with the plug-in's first book: the next one reads its resolver unbound and
switched off. -/
theorem first_start_not_reloaded :
    ¬ ∀ evs, Reloads (run step (fresh sqlitePlatform) evs) := by
  intro h
  obtain ⟨hlist, -⟩ := h [.start (OrderedMap.empty.put pluginUUID "SQLite") []]
    [⟨.inr "SQLite", .addressbook, 0, 1, none, none⟩] (by decide)
  exact absurd hlist (by decide)

end ResolverModel
end Cmon
