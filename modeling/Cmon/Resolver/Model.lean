import Mathlib.Data.List.Perm.Basic
import Cmon.Library.OrderedMap
import Cmon.Library.Table
import Cmon.App.MainApp
import Cmon.AddressBook.Registration

/-!
# Resolver — the model

`CResolverModel`: the list of resolvers, its operations, and the table `resolver` in which
`saveEntries` keeps it and from which `loadResolvers` reads it at the next start; and the loop of
`CMainApp::OnInit` that adds a resolver for each address book that has none.

* The column `name` is declared `INTEGER`, so a text that looks like a number is stored as one.
  What the column makes of a text, and what `UuidFromString` reads, is `ResolverPlatform`.
* Every statement and commit succeeds.  `order by pos` leaves the order of equal positions open:
  a start comes with the order in which the rows are read (`Allowed`).
* To move the last resolver down takes an iterator past the end, which is undefined; nothing is
  done here.
-/

namespace Cmon
open Library

/-- What SQLite and Windows decide: a text in a column of type `INTEGER`, and `UuidFromString`. -/
structure ResolverPlatform where
  Cell : Type
  cellEq : DecidableEq Cell
  ofText : String → Cell
  toText : Cell → String
  uuidFromString : String → Option Guid

instance ResolverPlatform.decidableEqCell (p : ResolverPlatform) : DecidableEq p.Cell := p.cellEq

/-- `CGUID::fromString`. -/
def ResolverPlatform.guid (p : ResolverPlatform) (str : String) : Guid :=
  (p.uuidFromString str).getD 0

/-- The loader's address books: the name of each by its id. -/
abbrev Books := OrderedMap Guid String

/-- `CResolver` with what its two subclasses add: `m_pBook`, by its id, and `m_strURL` and
`m_strRegEx`. -/
structure Resolver where
  type : ResolverType
  enabled : Bool
  dirty : Bool
  position : Int
  name : String
  book : Option Guid
  url : String
  regEx : String
  deriving DecidableEq, Repr

namespace Resolver

def enable (r : Resolver) (val : Bool) : Resolver :=
  { r with dirty := r.dirty || r.enabled != val, enabled := val }

def setPosition (r : Resolver) (val : Int) : Resolver :=
  { r with dirty := r.dirty || r.position != val, position := val }

def setDirty (r : Resolver) (flag : Bool) : Resolver := { r with dirty := flag }

/-- The resolver `OnInit` makes for a book. -/
def ofBook (b : Guid × String) : Resolver := ⟨.addressbook, true, true, 0, b.2, some b.1, "", ""⟩

/-- The resolver `loadFromFile` makes of a file with a valid regular expression. -/
def ofFile (name url regEx : String) : Resolver :=
  ⟨.onlineRegex, true, true, 0, name, none, url, regEx⟩

end Resolver

/-- A row of the table `resolver`; `none` is NULL. -/
structure ResolverRow (p : ResolverPlatform) where
  name : p.Cell
  type : ResolverType
  pos : Int
  enabled : Int
  v1 : Option String
  v2 : Option String
  deriving DecidableEq

/-- The list, the table, and the address books the loader has registered. -/
structure ResolverModel (p : ResolverPlatform) where
  rows : List (ResolverRow p)
  resolvers : List Resolver
  books : Books

/-- A new installation before its first start. -/
def ResolverModel.fresh (p : ResolverPlatform) : ResolverModel p := ⟨[], [], .empty⟩

namespace ResolverModel
variable {p : ResolverPlatform}

/-! ### The table -/

/-- The transaction of `saveEntries` for a resolver. -/
def saveEntry (rows : List (ResolverRow p)) (r : Resolver) : List (ResolverRow p) :=
  let name := p.ofText (toUTF8 r.name)
  let enabled := if r.enabled then 1 else 0
  let count := rows.countP fun row => row.name = name
  match r.type with
  | .addressbook =>
      if count = 0 then rows ++ [⟨name, r.type, r.position, enabled, none, none⟩]
      else rows.map fun row =>
        if row.name = name then { row with type := r.type, pos := r.position, enabled } else row
  | .onlineRegex =>
      let url := toUTF8 r.url
      let regex := toUTF8 r.regEx
      if count = 0 then rows ++ [⟨name, r.type, r.position, enabled, some url, some regex⟩]
      else rows.map fun row =>
        if row.name = name then
          { row with type := r.type, pos := r.position, enabled, v1 := some url, v2 := some regex }
        else row

/-- `saveEntries`: the dirty resolvers are saved. -/
def saveEntries (s : ResolverModel p) : ResolverModel p :=
  { s with
    rows := s.resolvers.foldl (fun rows r => if r.dirty then saveEntry rows r else rows) s.rows
    resolvers := s.resolvers.map (·.setDirty false) }

/-- The resolver of a row. -/
def loadRow (p : ResolverPlatform) (books : Books) (row : ResolverRow p) : Resolver :=
  let name := p.toText row.name
  match row.type with
  | .addressbook =>
      let gid := p.guid name
      let book := (books.find? gid).map fun _ => gid
      ⟨.addressbook, book.isSome && row.enabled = 1, false, row.pos, name, book, "", ""⟩
  | .onlineRegex =>
      ⟨.onlineRegex, row.enabled = 1, false, row.pos, name, none, row.v1.getD "", row.v2.getD ""⟩

/-! ### The list -/

def hasEntry (s : ResolverModel p) (strName : String) : Bool :=
  s.resolvers.any fun r => r.name = strName

/-- The positions are counted anew. -/
def renumber (l : List Resolver) : List Resolver := l.mapIdx fun pos r => r.setPosition pos

def prependEntry (s : ResolverModel p) (pR : Resolver) : ResolverModel p :=
  if s.hasEntry pR.name then s
  else saveEntries { s with resolvers := renumber (pR :: s.resolvers) }

def appendEntry (s : ResolverModel p) (pR : Resolver) : ResolverModel p :=
  if s.hasEntry pR.name then s
  else
    let pos := s.resolvers.foldl (fun pos r => if r.position > pos then r.position else pos) 0
    saveEntries { s with resolvers := s.resolvers ++ [pR.setPosition pos] }

/-- The elements at `i` and behind it change places. -/
def swapNext : Nat → List Resolver → List Resolver
  | 0, a :: b :: l => b :: a :: l
  | i + 1, a :: l => a :: swapNext i l
  | _, l => l

def moveUp (s : ResolverModel p) (idx : Nat) : ResolverModel p :=
  if 0 < idx ∧ idx < s.resolvers.length then
    saveEntries { s with resolvers := renumber (swapNext (idx - 1) s.resolvers) }
  else s

def moveDown (s : ResolverModel p) (idx : Nat) : ResolverModel p :=
  if idx + 1 < s.resolvers.length then
    saveEntries { s with resolvers := renumber (swapNext idx s.resolvers) }
  else s

def toggle (s : ResolverModel p) (idx : Nat) : ResolverModel p :=
  if idx < s.resolvers.length then
    saveEntries { s with resolvers := s.resolvers.modify idx fun r => r.enable (!r.enabled) }
  else s

/-- `deleteEntry`, for an index the page has. -/
def deleteEntry (s : ResolverModel p) (idx : Nat) : ResolverModel p :=
  match s.resolvers[idx]? with
  | none => s
  | some pR =>
      { s with
        rows := s.rows.filter fun row => row.name ≠ p.ofText (toUTF8 pR.name)
        resolvers := s.resolvers.eraseIdx idx }

/-! ### Program starts -/

/-- The loop of `OnInit`. -/
def resync (s : ResolverModel p) : ResolverModel p :=
  s.books.entries.foldl (fun s b =>
    if s.hasEntry b.2 then s else s.prependEntry (.ofBook b)) s

/-- A start with the address books `books`; `order` is the order in which the rows are read. -/
def start (s : ResolverModel p) (books : Books) (order : List (ResolverRow p)) : ResolverModel p :=
  resync ⟨s.rows, order.map (loadRow p books), books⟩

/-- An order in which `order by pos` may give the rows. -/
def Allowed (rows order : List (ResolverRow p)) : Prop :=
  order.Perm rows ∧ order.Pairwise fun a b => a.pos ≤ b.pos

instance (rows order : List (ResolverRow p)) : Decidable (Allowed rows order) :=
  inferInstanceAs (Decidable (_ ∧ _))

/-- What can happen: a start, the import of a resolver from a file, and the buttons of the page. -/
inductive Event (p : ResolverPlatform) where
  | start (books : Books) (order : List (ResolverRow p))
  | append (name url regEx : String)
  | moveUp (idx : Nat)
  | moveDown (idx : Nat)
  | toggle (idx : Nat)
  | delete (idx : Nat)

def step (s : ResolverModel p) : Event p → ResolverModel p
  | .start books order => if Allowed s.rows order then s.start books order else s
  | .append name url regEx => s.appendEntry (.ofFile name url regEx)
  | .moveUp idx => s.moveUp idx
  | .moveDown idx => s.moveDown idx
  | .toggle idx => s.toggle idx
  | .delete idx => s.deleteEntry idx

end ResolverModel
end Cmon
