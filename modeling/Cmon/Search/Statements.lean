import Cmon.Library.SqlText
import Cmon.Shared.Phone
import Cmon.AddressBook.Contact

/-!
# Search — the statements

The SQL texts that the searches put together from strings they do not control: the counts and the
list of the journal and the list of an address book from what is typed into a search field
(`doSearch`, `setNameAndNumberFilter`, `updateFilters`, `getEntries`), and the look-up of a
number in an address book (`resolve`).

The text is read by `SqlText.lex`, as far as these statements need the language of SQLite and
PostgreSQL: two texts with the same tokens are the same statement.  `Query.intended` is what a
query is meant to say, with each string as the content of a literal, between `%` where the
statement compares with `like`.

`Query.read_iff`: a query is read as it is meant exactly when it is `Safe`: no apostrophe in the
string, and not the look-up of an internal number in an SQLite book, which is not quoted at all.
-/

namespace Cmon
open Library SqlText

/-! ### The source -/

/-- `DoSearch` of the journal page and of the contact page: the text without its digits and the
digits of the text.  `digit` is the class `[[:digit:]]` of the regular expressions. -/
def doSearch (p : Platform) (strText : String) : String × String :=
  (String.ofList (strText.toList.filter fun c => !p.isDigit c),
    String.ofList (strText.toList.filter p.isDigit))

/-- A condition is joined to what there is of them: `if (cond.length()) cond += " and "`. -/
def andCond (strCond more : String) : String :=
  if more = "" then strCond else (if strCond = "" then "" else strCond ++ " and ") ++ more

/-- ` where ` and the condition, when there is one. -/
def whereCond (strCond : String) : String :=
  if strCond = "" then "" else " where " ++ strCond

/-- The filters of the constructor of `CJournalModel`. -/
inductive JournalFilter where
  | incoming | outgoing | callsInAbsence | allCalls | today | thisMonth | thisWeek
  deriving DecidableEq, Repr

/-- `CJournalFilter::getCondition`; the numbers are those of `EntryType` and `EntryResult`. -/
def JournalFilter.getCondition : JournalFilter → String
  | .incoming => "(type == 1)"
  | .outgoing => "(type == 2)"
  | .callsInAbsence => "(type == 1 and res == 3)"
  | .allCalls => ""
  | .today => "(date(tm1) == date('now'))"
  | .thisMonth => "(strftime('%Y%m', tm1) == strftime('%Y%m', 'now'))"
  | .thisWeek => "(strftime('%Y%W', tm1) == strftime('%Y%W', 'now'))"

/-- `TJournalSortOrder`. -/
inductive JournalSortOrder where
  | type | time | callerName | callerNr | calledNr | duration | result
  deriving DecidableEq, Repr

def JournalSortOrder.column : JournalSortOrder → String
  | .type => "type "
  | .time => "tm1 "
  | .callerName => "cln "
  | .callerNr => "clnr "
  | .calledNr => "cdnr "
  | .duration => "dur "
  | .result => "res "

/-- `TContactSortOrder`. -/
inductive ContactSortOrder where
  | fn | ln | mn | nn | sn | title | organization | email
  deriving DecidableEq, Repr

def ContactSortOrder.column : ContactSortOrder → String
  | .fn => "fn "
  | .ln => "ln "
  | .mn => "mn "
  | .nn => "nn "
  | .sn => "sn "
  | .title => "title "
  | .organization => "org "
  | .email => "email "

/-- The end of a list statement. -/
def orderBy (column : String) (bSortAsc : Bool) : String :=
  " order by " ++ column ++ (if bSortAsc then "asc" else "desc")

/-- `CJournalModel::setNameAndNumberFilter`: the condition it stores. -/
def nameAndNumberCond (strName strNumber : String) : String :=
  let strNameUTF8 := toUTF8 strName
  let strNumberUTF8 := toUTF8 strNumber
  andCond
    (if strNameUTF8 = "" then "" else
      "(( cln like '%" ++ strNameUTF8 ++ "%') " ++ "or (cdn like '%" ++ strNameUTF8 ++ "%')) ")
    (if strNumberUTF8 = "" then "" else
      "(( clnr like '%" ++ strNumberUTF8 ++ "%') " ++ "or (cdnr like '%" ++ strNumberUTF8 ++ "%')) ")

/-- `CJournalModel::updateFilters`: the statement for one filter. -/
def journalCountSql (f : JournalFilter) (strNameAndNumberCond : String) : String :=
  "select count(*) from calls" ++ whereCond (andCond f.getCondition strNameAndNumberCond)

/-- `CJournalModel::getEntries`; no current filter is the index `-1`. -/
def journalListSql (current : Option JournalFilter) (so : JournalSortOrder) (bSortAsc : Bool)
    (strNameAndNumberCond : String) : String :=
  "select id,type,res,tm1,tm2,dur,clnr,cln,cdnr,cdn from calls" ++
    whereCond (andCond (current.elim "" JournalFilter.getCondition) strNameAndNumberCond) ++
    orderBy so.column bSortAsc

/-- `getEntries` of an address book, after `setNameAndNumberFilter`; the kinds compare names with
different operators. -/
def contactsSql (kind : BookKind) (so : ContactSortOrder) (bSortAsc : Bool)
    (strName strNumber : String) : String :=
  let strNameFilter := toUTF8 strName
  let strNumberFilter := toUTF8 strNumber
  "select id,fn,mn,ln,nn,sn,title,org,email,picture from contacts" ++
    whereCond (andCond
      (if strNameFilter = "" then "" else
        (match kind with | .sqlite => " sn like '%" | .psql => " sn ilike '%") ++
          strNameFilter ++ "%' ")
      (if strNumberFilter = "" then "" else
        " id in (select cref from numbers where canonical like '%" ++ strNumberFilter ++ "%')")) ++
    orderBy so.column bSortAsc

/-- `strNumber.Right(6)`. -/
def right6 (strNumber : String) : String :=
  String.ofList (strNumber.toList.drop (strNumber.length - 6))

/-- `phoneNr.isInternal()`, after `phoneNr.setNumber(strNumber)`. -/
def isInternalPhone (rp : GeneralPrefs) (strNumber : String) : Bool :=
  isInternalNumber rp (trim strNumber)

/-- The first statement of `resolve`. -/
def resolveSql (kind : BookKind) (rp : GeneralPrefs) (strNumber : String) : String :=
  if !isInternalPhone rp strNumber then
    let toSearch := toUTF8 (right6 strNumber)
    match kind with
    | .sqlite => "select cref, canonical from numbers where " ++
        "replace(replace(replace(replace(replace(canonical," ++ "'+', '')," ++ "'(', '')," ++
        "')', '')," ++ "'-', '')," ++ "' ', '')" ++ " like '%" ++ toSearch ++ "%'"
    | .psql => "select cref, canonical from numbers where " ++
        "regexp_replace(canonical, '[^[:digit:]]', '', 'g')" ++ " like '%" ++ toSearch ++ "%'"
  else
    let toSearch := toUTF8 strNumber
    match kind with
    | .sqlite => "select cref, canonical from numbers where " ++
        "cast(canonical as integer) = " ++ toSearch
    | .psql => "select cref, canonical from numbers where " ++
        "regexp_replace(canonical, '[^[:digit:]]', '', 'g')" ++ " = '" ++ toSearch ++ "'"

/-- The searches. -/
inductive Query where
  | journalCount (f : JournalFilter) (typed : String)
  | journalList (current : Option JournalFilter) (so : JournalSortOrder) (bSortAsc : Bool)
      (typed : String)
  | contacts (kind : BookKind) (so : ContactSortOrder) (bSortAsc : Bool) (typed : String)
  | resolve (kind : BookKind) (rp : GeneralPrefs) (strNumber : String)

/-- The text of the statement. -/
def Query.sql (p : Platform) : Query → String
  | .journalCount f typed =>
      let (strText, strNumber) := doSearch p typed
      journalCountSql f (nameAndNumberCond strText strNumber)
  | .journalList current so bSortAsc typed =>
      let (strText, strNumber) := doSearch p typed
      journalListSql current so bSortAsc (nameAndNumberCond strText strNumber)
  | .contacts kind so bSortAsc typed =>
      let (strText, strNumber) := doSearch p typed
      contactsSql kind so bSortAsc strText strNumber
  | .resolve kind rp strNumber => resolveSql kind rp strNumber

/-! ### What the statements are meant to say -/

def fixed (s : String) : Piece := .fixed s.toList

/-- The literal with the content `s`. -/
def equal (s : String) : Piece := .lit s.toList

/-- The literal of a comparison with `like`. -/
def like (s : String) : Piece := .lit ('%' :: (s.toList ++ ['%']))

/-- Pieces of a condition, when the string is not empty. -/
def unlessEmpty (s : String) (ps : List Piece) : List Piece := if s = "" then [] else ps

def andPieces (ps more : List Piece) : List Piece :=
  if more = [] then ps else (if ps = [] then [] else ps ++ [fixed " and "]) ++ more

def selectPieces (sel : String) (cond : List Piece) (tail : String) : List Piece :=
  if cond = [] then [fixed (sel ++ tail)]
  else fixed (sel ++ " where ") :: (cond ++ [fixed tail])

def journalCond (name number : String) : List Piece :=
  andPieces
    (unlessEmpty name
      [fixed "(( cln like ", like name, fixed ") or (cdn like ", like name, fixed ")) "])
    (unlessEmpty number
      [fixed "(( clnr like ", like number, fixed ") or (cdnr like ", like number, fixed ")) "])

def contactsCond (kind : BookKind) (name number : String) : List Piece :=
  andPieces
    (unlessEmpty name
      [fixed (match kind with | .sqlite => " sn like " | .psql => " sn ilike "), like name,
        fixed " "])
    (unlessEmpty number
      [fixed " id in (select cref from numbers where canonical like ", like number, fixed ")"])

/-- The intended statement. -/
def Query.intended (p : Platform) : Query → List Piece
  | .journalCount f typed =>
      let (strText, strNumber) := doSearch p typed
      selectPieces "select count(*) from calls"
        (andPieces (unlessEmpty f.getCondition [fixed f.getCondition])
          (journalCond (toUTF8 strText) (toUTF8 strNumber))) ""
  | .journalList current so bSortAsc typed =>
      let (strText, strNumber) := doSearch p typed
      let filter := current.elim "" JournalFilter.getCondition
      selectPieces "select id,type,res,tm1,tm2,dur,clnr,cln,cdnr,cdn from calls"
        (andPieces (unlessEmpty filter [fixed filter])
          (journalCond (toUTF8 strText) (toUTF8 strNumber))) (orderBy so.column bSortAsc)
  | .contacts kind so bSortAsc typed =>
      let (strText, strNumber) := doSearch p typed
      selectPieces "select id,fn,mn,ln,nn,sn,title,org,email,picture from contacts"
        (contactsCond kind (toUTF8 strText) (toUTF8 strNumber)) (orderBy so.column bSortAsc)
  | .resolve kind rp strNumber =>
      if isInternalPhone rp strNumber then
        match kind with
        | .sqlite => [fixed ("select cref, canonical from numbers where " ++
            "cast(canonical as integer) = "), equal (toUTF8 strNumber)]
        | .psql => [fixed ("select cref, canonical from numbers where " ++
            "regexp_replace(canonical, '[^[:digit:]]', '', 'g')" ++ " = "), equal (toUTF8 strNumber)]
      else
        match kind with
        | .sqlite => [fixed ("select cref, canonical from numbers where " ++
            "replace(replace(replace(replace(replace(canonical," ++ "'+', '')," ++ "'(', '')," ++
            "')', '')," ++ "'-', '')," ++ "' ', '')" ++ " like "), like (toUTF8 (right6 strNumber))]
        | .psql => [fixed ("select cref, canonical from numbers where " ++
            "regexp_replace(canonical, '[^[:digit:]]', '', 'g')" ++ " like "),
            like (toUTF8 (right6 strNumber))]

/-- No apostrophe in the string, as it stands in a statement. -/
def NoQuote (s : String) : Prop := '\'' ∉ (toUTF8 s).toList

instance (s : String) : Decidable (NoQuote s) := inferInstanceAs (Decidable (_ ∉ _))

/-- **When a query is read as it is meant.** -/
def Query.Safe (p : Platform) : Query → Prop
  | .journalCount _ typed | .journalList _ _ _ typed | .contacts _ _ _ typed =>
      NoQuote (doSearch p typed).1 ∧ NoQuote (doSearch p typed).2
  | .resolve kind rp strNumber =>
      if isInternalPhone rp strNumber then kind = .psql ∧ NoQuote strNumber
      else NoQuote (right6 strNumber)

/-! ### Reading -/

/-- A condition and its pieces. -/
structure Reads (strCond : String) (ps : List Piece) : Prop where
  text : strCond.toList = text ps
  empty : ps = [] ↔ strCond = ""
  closed : Closed ps

theorem reads_empty : Reads "" [] := ⟨rfl, by simp, closed_nil⟩

theorem Reads.and {c more : String} {ps qs : List Piece} (h : Reads c ps) (hmore : Reads more qs) :
    Reads (andCond c more) (andPieces ps qs) := by
  rw [andCond, andPieces]
  by_cases hq : qs = []
  · rw [if_pos hq, if_pos (hmore.empty.mp hq)]
    exact h
  · rw [if_neg hq, if_neg (mt hmore.empty.mpr hq)]
    by_cases hp : ps = []
    · rw [if_pos hp, if_pos (h.empty.mp hp)]
      simpa using hmore
    · rw [if_neg hp, if_neg (mt h.empty.mpr hp)]
      refine ⟨?_, ?_, (h.closed.append (closed_fixed (by decide))).append hmore.closed⟩
      · simp [h.text, hmore.text, SqlText.text, fixed]
      · have hc := mt h.empty.mpr hp
        simp [hp, hc]

/-- A condition without strings in it. -/
theorem reads_fixed {s : String} (h : EndsPlain s.toList) :
    Reads s (unlessEmpty s [fixed s]) := by
  rw [unlessEmpty]
  by_cases hs : s = ""
  · rw [if_pos hs, hs]
    exact reads_empty
  · rw [if_neg hs]
    exact ⟨by simp [SqlText.text, fixed], by simp [hs], closed_fixed h⟩

/-- A condition that stands when a string is not empty. -/
theorem reads_unlessEmpty (s : String) {c : String} {ps : List Piece} (hc : c.toList = text ps)
    (hne : ps ≠ []) (hclosed : Closed ps) (hempty : c ≠ "") :
    Reads (if s = "" then "" else c) (unlessEmpty s ps) := by
  rw [unlessEmpty]
  split_ifs
  · exact reads_empty
  · exact ⟨hc, by simp [hne, hempty], hclosed⟩

theorem endsClean_like (s : String) : EndsClean ('%' :: (s.toList ++ ['%'])) :=
  ⟨'%' :: s.toList, '%', rfl, by decide⟩

/-- A literal of a comparison with `like`, and the rest of the comparison. -/
theorem closed_like (s : String) {rest : String} {c : Char} {cs : List Char}
    (hrest : rest.toList = c :: cs) (hc : c ≠ '\'')
    (h : EndsPlain rest.toList) : Closed [like s, fixed rest] := by
  rw [fixed, hrest]
  exact closed_lit (endsClean_like s) hc (hrest ▸ h)

theorem reads_journalCond (strName strNumber : String) :
    Reads (nameAndNumberCond strName strNumber)
      (journalCond (toUTF8 strName) (toUTF8 strNumber)) := by
  have hclosed : ∀ s : String, Closed [like s, fixed ") or (cdn like ", like s, fixed ")) "] :=
    fun s => (closed_like s rfl (by decide) (by decide)).append
      (closed_like s rfl (by decide) (by decide))
  have hclosed' : ∀ s : String, Closed [like s, fixed ") or (cdnr like ", like s, fixed ")) "] :=
    fun s => (closed_like s rfl (by decide) (by decide)).append
      (closed_like s rfl (by decide) (by decide))
  refine (reads_unlessEmpty _ ?_ (by simp) ((closed_fixed (by decide)).append (hclosed _))
    (by simp)).and
      (reads_unlessEmpty _ ?_ (by simp) ((closed_fixed (by decide)).append (hclosed' _)) (by simp))
  · simp [SqlText.text, fixed, like]
  · simp [SqlText.text, fixed, like]

theorem reads_contactsCond (kind : BookKind) (strName strNumber : String) :
    Reads
      (andCond
        (if toUTF8 strName = "" then "" else
          (match kind with | .sqlite => " sn like '%" | .psql => " sn ilike '%") ++
            toUTF8 strName ++ "%' ")
        (if toUTF8 strNumber = "" then "" else
          " id in (select cref from numbers where canonical like '%" ++ toUTF8 strNumber ++ "%')"))
      (contactsCond kind (toUTF8 strName) (toUTF8 strNumber)) := by
  refine (reads_unlessEmpty _ ?_ (by simp) ?_ (by simp)).and
    (reads_unlessEmpty _ ?_ (by simp) ((closed_fixed (by decide)).append
      (closed_like _ rfl (by decide) (by decide))) (by simp))
  · cases kind <;> simp [SqlText.text, fixed, like]
  · cases kind
    · exact (closed_fixed (by decide)).append (closed_like _ rfl (by decide) (by decide))
    · exact (closed_fixed (by decide)).append (closed_like _ rfl (by decide) (by decide))
  · simp [SqlText.text, fixed, like]

/-- A list statement is read as it is meant when its condition has no quote in a string. -/
theorem Reads.select {c : String} {ps : List Piece} (h : Reads c ps) {sel tail : String}
    (hsel : (lex (sel ++ tail).toList).isSome = true)
    (hwhere : EndsPlain (sel ++ " where ").toList)
    (htail : (lex tail.toList).isSome = true) :
    lex (sel ++ whereCond c ++ tail).toList = some (tokensOf (selectPieces sel ps tail)) ↔
      Clean ps := by
  have key : (sel ++ whereCond c ++ tail).toList = SqlText.text (selectPieces sel ps tail) ∧
      Joined (selectPieces sel ps tail) ∧ (Clean (selectPieces sel ps tail) ↔ Clean ps) := by
    rw [whereCond, selectPieces]
    by_cases hp : ps = []
    · rw [if_pos hp, if_pos (h.empty.mp hp), hp]
      refine ⟨by simp [SqlText.text, fixed], ⟨.inr ⟨rfl, hsel⟩, trivial⟩, by simp [fixed]⟩
    · rw [if_neg hp, if_neg (mt h.empty.mpr hp)]
      refine ⟨by simp [h.text, SqlText.text, fixed], ?_, by simp [fixed]⟩
      exact ⟨.inl hwhere, h.closed _ ⟨.inr ⟨rfl, htail⟩, trivial⟩⟩
  obtain ⟨htext, hjoined, hclean⟩ := key
  rw [htext, lex_text_iff hjoined, hclean]

/-- The end of a list statement is complete, and it is behind a `select` as well. -/
theorem orderBy_isSome {column : String} (h : EndsPlain column.toList) (bSortAsc : Bool) :
    (lex (orderBy column bSortAsc).toList).isSome = true ∧
      ∀ sel : String, EndsPlain (sel ++ " ").toList →
        (lex (sel ++ orderBy column bSortAsc).toList).isSome = true := by
  have hdir : (lex (if bSortAsc then "asc" else "desc" : String).toList).isSome = true := by
    cases bSortAsc <;> decide +kernel
  have hby : EndsPlain "order by ".toList := by decide +kernel
  have hrest := hby.isSome (h.isSome hdir)
  have hsplit : ∀ sel : String, (sel ++ orderBy column bSortAsc).toList = (sel ++ " ").toList ++
      ("order by ".toList ++
        (column.toList ++ (if bSortAsc then "asc" else "desc" : String).toList)) := by
    intro sel
    simp [orderBy]
  refine ⟨?_, fun sel hsel => ?_⟩
  · have hempty := hsplit ""
    rw [String.empty_append] at hempty
    rw [hempty]
    exact EndsPlain.isSome (by decide) hrest
  · rw [hsplit]
    exact hsel.isSome hrest

/-! ### When there is a quote -/

theorem clean_andPieces (ps qs : List Piece) : Clean (andPieces ps qs) ↔ Clean ps ∧ Clean qs := by
  rw [andPieces]
  split_ifs with hq hp
  · simp [hq]
  · simp [hp]
  · simp [fixed]

theorem clean_unlessEmpty {s : String} {ps : List Piece} (h : Clean ps ↔ '\'' ∉ s.toList) :
    Clean (unlessEmpty s ps) ↔ '\'' ∉ s.toList := by
  rw [unlessEmpty]
  split_ifs with hs
  · simp [hs]
  · exact h

theorem clean_like (s : String) (ps : List Piece) :
    Clean (like s :: ps) ↔ '\'' ∉ s.toList ∧ Clean ps := by
  simp [like]

theorem clean_journalCond (strName strNumber : String) :
    Clean (journalCond (toUTF8 strName) (toUTF8 strNumber)) ↔
      NoQuote strName ∧ NoQuote strNumber := by
  rw [journalCond, clean_andPieces, clean_unlessEmpty, clean_unlessEmpty]
  · rfl
  · simp [fixed, clean_like]
  · simp [fixed, clean_like]

theorem clean_contactsCond (kind : BookKind) (strName strNumber : String) :
    Clean (contactsCond kind (toUTF8 strName) (toUTF8 strNumber)) ↔
      NoQuote strName ∧ NoQuote strNumber := by
  simp only [contactsCond]
  rw [clean_andPieces, clean_unlessEmpty, clean_unlessEmpty]
  · rfl
  · simp [fixed, clean_like]
  · simp [fixed, clean_like]

/-- The condition of a filter has no string in it. -/
theorem clean_filter (s : String) : Clean (unlessEmpty s [fixed s]) := by
  rw [unlessEmpty]
  split_ifs <;> simp [fixed]

/-! ### The look-up of a number -/

theorem read_last {sql a : String} {w : List Char} (hsql : sql.toList = text [fixed a, .lit w])
    (ha : EndsPlain a.toList) :
    lex sql.toList = some (tokensOf [fixed a, .lit w]) ↔ '\'' ∉ w := by
  have hjoined : Joined [fixed a, .lit w] :=
    ⟨.inl ha, by simp [SqlText.text], .inr (by simp [SqlText.text]), trivial⟩
  rw [hsql, lex_text_iff hjoined]
  simp [fixed]

/-- A look-up with `like`: `b` is the end `c` of the fixed part and the beginning of the literal. -/
theorem read_like {a b c d : String} (s : String) (hb : b.toList = c.toList ++ ['\'', '%'])
    (hd : d.toList = ['%', '\'']) (ha : EndsPlain (a ++ c).toList) :
    lex (a ++ b ++ s ++ d).toList = some (tokensOf [fixed (a ++ c), like s]) ↔ '\'' ∉ s.toList := by
  have htext : (a ++ b ++ s ++ d).toList = text [fixed (a ++ c), like s] := by
    simp [SqlText.text, fixed, like, hb, hd]
  refine (read_last htext ha).trans ?_
  simp

/-- A look-up with `=`. -/
theorem read_equal {a b c d : String} (s : String) (hb : b.toList = c.toList ++ ['\''])
    (hd : d.toList = ['\'']) (ha : EndsPlain (a ++ c).toList) :
    lex (a ++ b ++ s ++ d).toList = some (tokensOf [fixed (a ++ c), equal s]) ↔
      '\'' ∉ s.toList := by
  have htext : (a ++ b ++ s ++ d).toList = text [fixed (a ++ c), equal s] := by
    simp [SqlText.text, fixed, equal, hb, hd]
  exact read_last htext ha

theorem resolve_read_iff (kind : BookKind) (rp : GeneralPrefs) (strNumber : String)
    (p : Platform) :
    lex (resolveSql kind rp strNumber).toList =
        some (tokensOf ((Query.resolve kind rp strNumber).intended p)) ↔
      (Query.resolve kind rp strNumber).Safe p := by
  cases hi : isInternalPhone rp strNumber with
  | false =>
      simp only [resolveSql, Query.intended, Query.Safe, hi, Bool.not_false, if_true,
        Bool.false_eq_true, if_false]
      cases kind with
      | sqlite =>
          refine read_like _ (by decide) (by decide) ?_
          simp only [String.toList_append]
          refine EndsPlain.append (.append (.append (.append (.append (.append (.append ?_ ?_)
            ?_) ?_) ?_) ?_) ?_) ?_ <;> decide
      | psql =>
          refine read_like _ (by decide) (by decide) ?_
          simp only [String.toList_append]
          refine EndsPlain.append (.append ?_ ?_) ?_ <;> decide
  | true =>
      simp only [resolveSql, Query.intended, Query.Safe, hi, Bool.not_true, if_true,
        Bool.false_eq_true, if_false]
      cases kind with
      | sqlite =>
          -- without quotes no literal of the number's length is read
          refine iff_of_false ?_ (by simp)
          have h := lex_bare (s := ("select cref, canonical from numbers where " ++
            "cast(canonical as integer) = ").toList) (by decide +kernel) (toUTF8 strNumber).toList
          rw [← String.toList_append] at h
          simpa only [tokensOf, fixed, equal, List.append_nil] using h
      | psql =>
          simp only [true_and]
          refine read_equal _ (by decide) (by decide) ?_
          simp only [String.toList_append]
          refine EndsPlain.append (.append ?_ ?_) ?_ <;> decide

/-- **A query is read as it is meant exactly when it is safe.** -/
theorem Query.read_iff (p : Platform) (q : Query) :
    lex (q.sql p).toList = some (tokensOf (q.intended p)) ↔ q.Safe p := by
  cases q with
  | journalCount f typed =>
      have hf : EndsPlain f.getCondition.toList := by cases f <;> rfl
      have hr := (reads_fixed hf).and
        (reads_journalCond (doSearch p typed).1 (doSearch p typed).2)
      have hsel : (lex ("select count(*) from calls" ++ "").toList).isSome = true := by
        decide +kernel
      have h := hr.select hsel (by decide +kernel) rfl
      rw [clean_andPieces, clean_journalCond, String.append_empty] at h
      exact h.trans (and_iff_right (clean_filter _))
  | journalList current so bSortAsc typed =>
      have hf : EndsPlain (current.elim "" JournalFilter.getCondition).toList := by
        cases current with
        | none => rfl
        | some f => cases f <;> rfl
      have hr := (reads_fixed hf).and
        (reads_journalCond (doSearch p typed).1 (doSearch p typed).2)
      have hcol : EndsPlain so.column.toList := by cases so <;> decide
      obtain ⟨htail, hsel⟩ := orderBy_isSome hcol bSortAsc
      have h := hr.select (hsel "select id,type,res,tm1,tm2,dur,clnr,cln,cdnr,cdn from calls"
        (by decide +kernel)) (by decide +kernel) htail
      rw [clean_andPieces, clean_journalCond] at h
      exact h.trans (and_iff_right (clean_filter _))
  | contacts kind so bSortAsc typed =>
      have hr := reads_contactsCond kind (doSearch p typed).1 (doSearch p typed).2
      have hcol : EndsPlain so.column.toList := by cases so <;> decide
      obtain ⟨htail, hsel⟩ := orderBy_isSome hcol bSortAsc
      have h := hr.select (hsel "select id,fn,mn,ln,nn,sn,title,org,email,picture from contacts"
        (by decide +kernel)) (by decide +kernel) htail
      rw [clean_contactsCond] at h
      exact h
  | resolve kind rp strNumber => exact resolve_read_iff kind rp strNumber p

/-- Preferences that take numbers of up to five characters for internal ones. -/
def shortInternal : GeneralPrefs :=
  { GeneralPrefs.initial with externalByLen := true, internalNrLen := 5 }

/-- A name with an apostrophe, typed into the search field of the contacts, makes a statement that
ends inside a literal; the number `**611` of a router's own service, looked up in an SQLite book,
is read as two operators and a number. -/
theorem apostrophe_breaks_search :
    lex ((Query.contacts .sqlite .sn true "O'Neil").sql utcPlatform).toList ≠
        some (tokensOf ((Query.contacts .sqlite .sn true "O'Neil").intended utcPlatform)) ∧
      lex ((Query.resolve .sqlite shortInternal "**611").sql utcPlatform).toList ≠
        some (tokensOf ((Query.resolve .sqlite shortInternal "**611").intended utcPlatform)) := by
  constructor
  · have hnone : lex ((Query.contacts .sqlite .sn true "O'Neil").sql utcPlatform).toList = none := by
      decide +kernel
    rw [hnone]
    exact (Option.some_ne_none _).symm
  · have hread : lex ((Query.resolve .sqlite shortInternal "**611").sql utcPlatform).toList =
        some ((lex ("select cref, canonical from numbers where " ++
          "cast(canonical as integer) = ").toList).getD [] ++
            [.sym '*', .sym '*', .word "611".toList]) := by
      decide +kernel
    rw [hread]
    decide +kernel

end Cmon
