import Cmon.Library.ConnInfo
import Cmon.Shared.Platform

/-!
# Address book — the connection strings

The strings from which `CPSQLAddressbook` and `CPSqlConnection` open their sessions.  The values
stand in them as they are; libpq reads the strings by its `conninfo` grammar.

* `quoted_le` and `unquoted_le`: what libpq reads is not longer than what was written.
* `connInfo_iff`: it reads the values when they need no quotes, and when a user and a password are
  both given or both not.
-/

namespace Cmon
open Library ConnInfo

/-! ### The source -/

/-- The settings of the plug-in, and the members of `CPSqlConnection`. -/
structure PSqlSettings where
  host : String
  port : Nat
  database : String
  user : String
  password : String
  deriving DecidableEq, Repr

namespace PSqlSettings

/-- The constructor of `CPSQLAddressbook`, by what it puts into the stream; a `wxString` is written
up to a NUL.  Every character is taken to have bytes in the multibyte encoding of the locale, as in
one of UTF-8; at another the stream fails, and writes no more. -/
def addressbookString (p : PSqlSettings) : String :=
  String.join ["host=", cString p.host, " port=", toString p.port, " dbname=", cString p.database,
    " user=", cString p.user, " password=", cString p.password,
    " options='-c client_encoding=UTF8'"]

/-- The user and the password of `CPSqlConnection`. -/
def userParts (p : PSqlSettings) : List String :=
  if !p.user.isEmpty && !p.password.isEmpty then [" user=", p.user, " password=", p.password]
  else []

/-- `connect`. -/
def connectString (p : PSqlSettings) : String :=
  String.join (["host=", p.host, " port=", toString p.port, " dbname=", p.database] ++
    p.userParts ++ [" options='-c client_encoding=UTF8'"])

/-- `createSchema`, for the administrator. -/
def adminString (p : PSqlSettings) (adminDb adminUser adminPwd : String) : String :=
  String.join ["host=", p.host, " port=", toString p.port, " dbname=", adminDb, " user=",
    adminUser, " password=", adminPwd]

/-- `createSchema`, for the owner. -/
def ownerString (p : PSqlSettings) : String :=
  String.join (["host=", p.host, " port=", toString p.port, " dbname=", p.database] ++ p.userParts)

/-! ### What is to be read -/

/-- Host, port and database. -/
def place (p : PSqlSettings) (database : String) : List (String × String) :=
  [("host", p.host), ("port", toString p.port), ("dbname", database)]

/-- A user and a password; when none is given, both may be left out. -/
def credentials (p : PSqlSettings) : List (String × String) :=
  if p.user = "" ∧ p.password = "" then [] else [("user", p.user), ("password", p.password)]

end PSqlSettings

/-- The fixed options. -/
def clientEncoding : String × String := ("options", "-c client_encoding=UTF8")

/-- What libpq reads of a string, which is handed over by `c_str()`. -/
def connInfo (s : String) : Option (List (String × String)) :=
  (parse (cString s).toList).map fun rs => rs.map fun r => (String.ofList r.1, String.ofList r.2)

/-- The texts that need no quotes. -/
def PlainText (s : String) : Prop := Plain s.toList ∧ '\x00' ∉ s.toList

instance (s : String) : Decidable (PlainText s) := inferInstanceAs (Decidable (_ ∧ _))

/-! ### What is read -/

/-- The characters of a parameter. -/
def chars (r : String × String) : Param := (r.1.toList, r.2.toList)

theorem connInfo_eq_some {s : String} {ps : List (String × String)} :
    connInfo s = some ps ↔ parse (cString s).toList = some (ps.map chars) := by
  have hback : ∀ ps : List (String × String),
      (ps.map chars).map (fun r => (String.ofList r.1, String.ofList r.2)) = ps := by
    intro ps
    rw [List.map_map]
    refine (List.map_congr_left fun r _ => ?_).trans (List.map_id ps)
    simp [chars]
  have hforth : ∀ rs : List Param,
      (rs.map fun r => (String.ofList r.1, String.ofList r.2)).map chars = rs := by
    intro rs
    rw [List.map_map]
    refine (List.map_congr_left fun r _ => ?_).trans (List.map_id rs)
    simp [chars]
  rw [connInfo, Option.map_eq_some_iff]
  constructor
  · rintro ⟨rs, hrs, rfl⟩
    rw [hrs, hforth]
  · intro h
    exact ⟨_, h, hback ps⟩

/-- What is left of a text, when it is as long as the text. -/
theorem takeWhile_eq_of_length {t : List Char}
    (h : t.length ≤ (t.takeWhile (· ≠ '\x00')).length) :
    t.takeWhile (· ≠ '\x00') = t ∧ '\x00' ∉ t := by
  have hprefix : t.takeWhile (· ≠ '\x00') <+: t := List.takeWhile_prefix _
  have heq := hprefix.eq_of_length_le h
  refine ⟨heq, fun hmem => ?_⟩
  rw [← heq] at hmem
  simpa using List.mem_takeWhile_imp hmem

section
variable {ps qs : List (String × String)} {text n v n' v' : String}

theorem length_fields (rs : List Param) : (fields rs).length = weight rs := by
  induction rs with
  | nil => rfl
  | cons r rs ih =>
      rw [fields, List.flatMap_cons, ← fields, List.length_append, ih]
      simp [weight, Nat.add_assoc]

theorem length_unquoted
    (htext : text.toList = fields (ps.map chars) ++ (n.toList ++ ['=']) ++ v.toList) :
    text.toList.length = weight (ps.map chars) + (n.toList.length + v.toList.length + 1) := by
  rw [htext, List.length_append, List.length_append, length_fields, List.length_append,
    List.length_singleton]
  omega

/-- **What is read of an unquoted text,** if it is not shorter than what was written: it is as long,
and its values are plain. -/
theorem unquoted_le
    (htext : text.toList = fields (ps.map chars) ++ (n.toList ++ ['=']) ++ v.toList)
    (hlen : weight (ps.map chars) + (n.toList.length + v.toList.length) ≤
      weight (qs.map chars) + (n'.toList.length + v'.toList.length))
    (h : connInfo text = some (qs ++ [(n', v')])) :
    weight (ps.map chars) + (n.toList.length + v.toList.length) =
      weight (qs.map chars) + (n'.toList.length + v'.toList.length) ∧
      (∀ r ∈ qs, Plain r.2.toList) ∧ (v' = "" ∨ Plain v'.toList) ∧ '\x00' ∉ text.toList := by
  rw [connInfo_eq_some, toList_cString, List.map_append] at h
  obtain ⟨hle, htight⟩ := weight_le_of_parse (n := n'.toList) (v := v'.toList) h
  have hprefix : text.toList.takeWhile (· ≠ '\x00') <+: text.toList := List.takeWhile_prefix _
  have hlength := hprefix.length_le
  have hall := length_unquoted htext
  obtain ⟨hplain, hlast⟩ := htight (by omega)
  exact ⟨by omega, fun r hr => hplain (chars r) (List.mem_map_of_mem hr),
    hlast.imp_left fun h => String.toList_eq_nil_iff.mp h, (takeWhile_eq_of_length (by omega)).2⟩

theorem nul_mem_fields :
    '\x00' ∈ fields (ps.map chars) ↔ ∃ r ∈ ps, '\x00' ∈ r.1.toList ∨ '\x00' ∈ r.2.toList := by
  simp [fields, chars]

/-- Names without a NUL. -/
def Named (n : String) : Prop := Name n.toList ∧ '\x00' ∉ n.toList

instance (n : String) : Decidable (Named n) := inferInstanceAs (Decidable (_ ∧ _))

theorem plainText_of_fields (hplain : ∀ r ∈ ps, Plain r.2.toList)
    (hnul : '\x00' ∉ fields (ps.map chars)) : ∀ r ∈ ps, PlainText r.2 :=
  fun r hr => ⟨hplain r hr, fun hmem => hnul (nul_mem_fields.mpr ⟨r, hr, .inr hmem⟩)⟩

theorem nul_notMem_fields (hps : ∀ r ∈ ps, Named r.1) (hplain : ∀ r ∈ ps, PlainText r.2) :
    '\x00' ∉ fields (ps.map chars) := by
  rw [nul_mem_fields]
  rintro ⟨r, hr, hmem | hmem⟩
  · exact (hps r hr).2 hmem
  · exact (hplain r hr).2 hmem

theorem forall_mem_chars {P : Param → Prop} (h : ∀ r ∈ ps, P (chars r)) :
    ∀ r ∈ ps.map chars, P r := by
  intro r hr
  obtain ⟨r₀, hr₀, rfl⟩ := List.mem_map.mp hr
  exact h r₀ hr₀

/-- When an unquoted text reads back. -/
theorem unquoted_iff
    (htext : text.toList = fields (ps.map chars) ++ (n.toList ++ ['=']) ++ v.toList)
    (hps : ∀ r ∈ ps ++ [(n, v)], Named r.1) :
    connInfo text = some (ps ++ [(n, v)]) ↔
      (∀ r ∈ ps, PlainText r.2) ∧ (v = "" ∨ PlainText v) := by
  have hn : Named n := hps _ (List.mem_append_right _ List.mem_cons_self)
  have hps : ∀ r ∈ ps, Named r.1 := fun r hr => hps r (List.mem_append_left _ hr)
  constructor
  · intro h
    obtain ⟨-, hplain, hlast, hnul⟩ := unquoted_le htext (Nat.le_refl _) h
    rw [htext, List.mem_append, List.mem_append, not_or, not_or] at hnul
    exact ⟨plainText_of_fields hplain hnul.1.1, hlast.imp_right fun h => ⟨h, hnul.2⟩⟩
  · rintro ⟨hplain, hlast⟩
    have hnul : '\x00' ∉ text.toList := by
      rw [htext, List.mem_append, List.mem_append, not_or, not_or]
      refine ⟨⟨nul_notMem_fields hps hplain, ?_⟩, ?_⟩
      · simpa using hn.2
      · rcases hlast with rfl | hlast
        · exact List.not_mem_nil
        · exact hlast.2
    rw [connInfo_eq_some, cString_of_noNul hnul, htext, List.map_append]
    refine parse_unquoted (forall_mem_chars fun r hr => (hps r hr).1)
      (forall_mem_chars fun r hr => (hplain r hr).1) hn.1 ?_
    exact hlast.imp (congrArg String.toList) (·.1)

/-- The text of the fixed options, from their name on. -/
def optionsText : List Char := clientEncoding.1.toList ++ ['='] ++ '\'' :: clientEncoding.2.toList

/-- **What is read of a text with the options,** if it is not shorter than what was written. -/
theorem quoted_le (htext : text.toList = fields (ps.map chars) ++ optionsText ++ ['\''])
    (hlen : weight (ps.map chars) ≤ weight (qs.map chars))
    (h : connInfo text = some (qs ++ [clientEncoding])) :
    weight (ps.map chars) = weight (qs.map chars) ∧ (∀ r ∈ qs, Plain r.2.toList) ∧
      '\x00' ∉ fields (ps.map chars) := by
  rw [connInfo_eq_some, toList_cString, List.map_append] at h
  by_cases hnul : '\x00' ∈ fields (ps.map chars)
  · -- what is read ends within the values
    have hpre : text.toList.takeWhile (· ≠ '\x00') <+: fields (ps.map chars) := by
      refine (List.prefix_or_prefix_of_prefix ( List.takeWhile_prefix _)
        (show fields (ps.map chars) <+: text.toList from ?_)).resolve_right fun hpre => ?_
      · rw [htext, List.append_assoc]
        exact List.prefix_append _ _
      · simpa using List.mem_takeWhile_imp (hpre.subset hnul)
    have hle := (weight_le_of_parse (n := clientEncoding.1.toList)
      (v := clientEncoding.2.toList) h).1
    have hshort := hpre.length_le
    rw [length_fields] at hshort
    omega
  · have hall : '\x00' ∉ text.toList := by
      rw [htext, List.mem_append, List.mem_append, not_or, not_or]
      exact ⟨⟨hnul, by decide⟩, by decide⟩
    rw [← toList_cString, cString_of_noNul hall, htext] at h
    obtain ⟨hle, htight⟩ := weight_le_of_parse_quoted (n := clientEncoding.1.toList)
      (w := clientEncoding.2.toList) h (by decide)
    rw [List.length_append, length_fields, show optionsText.length =
      clientEncoding.1.toList.length + clientEncoding.2.toList.length + 2 by decide] at hle htight
    exact ⟨by omega, fun r hr => htight (by omega) (chars r) (List.mem_map_of_mem hr), hnul⟩

/-- When a text with the options reads back. -/
theorem quoted_iff (htext : text.toList = fields (ps.map chars) ++ optionsText ++ ['\''])
    (hps : ∀ r ∈ ps, Named r.1) :
    connInfo text = some (ps ++ [clientEncoding]) ↔ ∀ r ∈ ps, PlainText r.2 := by
  constructor
  · intro h
    obtain ⟨-, hplain, hnul⟩ := quoted_le htext (Nat.le_refl _) h
    exact plainText_of_fields hplain hnul
  · intro hplain
    have hnul : '\x00' ∉ text.toList := by
      rw [htext, List.mem_append, List.mem_append, not_or, not_or]
      exact ⟨⟨nul_notMem_fields hps hplain, by decide⟩, by decide⟩
    rw [connInfo_eq_some, cString_of_noNul hnul, htext, List.map_append, optionsText,
      ← List.append_assoc]
    exact parse_quoted (forall_mem_chars fun r hr => (hps r hr).1)
      (forall_mem_chars fun r hr => (hplain r hr).1) (by decide)
      (List.forall_iff_forall_mem.mp (by decide))

end

/-! ### The strings -/

/-- A port needs no quotes. -/
theorem plainText_port (port : Nat) : PlainText port.repr := by
  have hdigit : ∀ c ∈ port.repr.toList, c.isDigit = true := by
    intro c hc
    rw [← Nat.toString_eq_repr, Nat.toString_eq_ofList_toDigits, String.toList_ofList] at hc
    exact Nat.isDigit_of_mem_toDigits (by decide) (by decide) hc
  have hne : ∀ d : Char, d.isDigit = false → d ∉ port.repr.toList := fun d hd hmem =>
    Bool.false_ne_true (hd.symm.trans (hdigit d hmem))
  refine ⟨⟨?_, fun h => hne '\'' (by decide) (List.mem_of_mem_head? h), fun c hc => ⟨?_, ?_⟩⟩,
    hne _ (by decide)⟩
  · simp
  · have hge : '0' ≤ c := by
      have hc := hdigit c hc
      rw [Char.isDigit, Bool.and_eq_true] at hc
      exact of_decide_eq_true hc.1
    rw [isSpace, Bool.or_eq_false_iff, Bool.and_eq_false_iff]
    refine ⟨decide_eq_false fun h => hne ' ' (by decide) (h ▸ hc), .inr ?_⟩
    exact decide_eq_false fun h => absurd (Char.le_trans hge h) (by decide)
  · exact fun h => hne '\\' (by decide) (h ▸ hc)

@[simp] theorem fields_nil : fields [] = [] := rfl

@[simp] theorem fields_cons (r : Param) (rs : List Param) :
    fields (r :: rs) = r.1 ++ ('=' :: (r.2 ++ (' ' :: fields rs))) := by
  simp [fields]

theorem not_plainText_empty : ¬ PlainText "" := fun h => h.1.1 rfl

theorem PlainText.ne_empty {s : String} (h : PlainText s) : s ≠ "" :=
  fun he => not_plainText_empty (he ▸ h)

namespace PSqlSettings

/-- A user without a password, or the other way round. -/
theorem userParts_of_one {p : PSqlSettings} (hboth : ¬ (p.user ≠ "" ∧ p.password ≠ "")) :
    p.userParts = [] := by
  rw [userParts, if_neg]
  simpa using hboth

theorem userParts_of_both {p : PSqlSettings} (hboth : p.user ≠ "" ∧ p.password ≠ "") :
    p.userParts = [" user=", p.user, " password=", p.password] := by
  rw [userParts, if_pos]
  simpa using hboth

theorem adminString_iff (p : PSqlSettings) (adminDb adminUser adminPwd : String) :
    connInfo (p.adminString adminDb adminUser adminPwd) =
      some (p.place adminDb ++ [("user", adminUser), ("password", adminPwd)]) ↔
        PlainText p.host ∧ PlainText adminDb ∧ PlainText adminUser ∧
          (adminPwd = "" ∨ PlainText adminPwd) := by
  have htext : (p.adminString adminDb adminUser adminPwd).toList =
      fields ((p.place adminDb ++ [("user", adminUser)]).map chars) ++
        ("password".toList ++ ['=']) ++ adminPwd.toList := by
    simp [adminString, place, chars]
  have h := unquoted_iff htext (by simp [place]; decide)
  simpa [place, plainText_port, and_assoc] using h

theorem connectString_iff (p : PSqlSettings) :
    connInfo p.connectString = some (p.place p.database ++ p.credentials ++ [clientEncoding]) ↔
      PlainText p.host ∧ PlainText p.database ∧
        (p.user = "" ∧ p.password = "" ∨ PlainText p.user ∧ PlainText p.password) := by
  by_cases hboth : p.user ≠ "" ∧ p.password ≠ ""
  · have htext : p.connectString.toList = fields ((p.place p.database ++
        [("user", p.user), ("password", p.password)]).map chars) ++ optionsText ++ ['\''] := by
      simp [connectString, userParts_of_both hboth, optionsText, clientEncoding, place, chars]
    have h := quoted_iff htext (by simp [place]; decide)
    simpa [place, credentials, plainText_port, and_assoc, hboth] using h
  · have htext : p.connectString.toList =
        fields ((p.place p.database).map chars) ++ optionsText ++ ['\''] := by
      simp [connectString, userParts_of_one hboth, optionsText, clientEncoding, place, chars]
    by_cases hnone : p.user = "" ∧ p.password = ""
    · have h := quoted_iff htext (by simp [place]; decide)
      simpa [place, credentials, plainText_port, hnone] using h
    · -- one of them is left out
      refine iff_of_false (fun h => ?_) (fun h => ?_)
      · have hlen := (quoted_le htext (by simp [weight, place]) h).1
        simp [weight, place, credentials, hnone, chars] at hlen
      · rcases h.2.2 with h | h
        · exact hnone h
        · exact hboth ⟨h.1.ne_empty, h.2.ne_empty⟩

theorem ownerString_iff (p : PSqlSettings) :
    connInfo p.ownerString = some (p.place p.database ++ p.credentials) ↔
      PlainText p.host ∧
        (p.user = "" ∧ p.password = "" ∧ (p.database = "" ∨ PlainText p.database) ∨
          PlainText p.database ∧ PlainText p.user ∧ PlainText p.password) := by
  by_cases hboth : p.user ≠ "" ∧ p.password ≠ ""
  · have htext : p.ownerString.toList = fields ((p.place p.database ++
        [("user", p.user)]).map chars) ++ ("password".toList ++ ['=']) ++ p.password.toList := by
      simp [ownerString, userParts_of_both hboth, place, chars]
    have h := unquoted_iff htext (by simp [place]; decide)
    simpa [place, credentials, plainText_port, and_assoc, hboth] using h
  · have htext : p.ownerString.toList =
        fields ([("host", p.host), ("port", toString p.port)].map chars) ++
          ("dbname".toList ++ ['=']) ++ p.database.toList := by
      simp [ownerString, userParts_of_one hboth, chars]
    by_cases hnone : p.user = "" ∧ p.password = ""
    · have h := unquoted_iff htext (by simp; decide)
      simpa [place, credentials, plainText_port, hnone, not_plainText_empty] using h
    · refine iff_of_false (fun h => ?_) (fun h => ?_)
      · have hread : connInfo p.ownerString =
            some ((p.place p.database ++ [("user", p.user)]) ++ [("password", p.password)]) := by
          simpa [credentials, hnone] using h
        have hlen := (unquoted_le htext (by simp [weight, place, chars]; omega) hread).1
        simp [weight, place, chars] at hlen
        omega
      · rcases h.2 with h | h
        · exact hnone ⟨h.1, h.2.1⟩
        · exact hboth ⟨h.2.1.ne_empty, h.2.2.ne_empty⟩

/-- A value that is written up to a NUL. -/
theorem length_cString (s : String) :
    (cString s).toList.length ≤ s.toList.length ∧
      (s.toList.length ≤ (cString s).toList.length → '\x00' ∉ s.toList) := by
  rw [toList_cString]
  exact ⟨(List.takeWhile_prefix _).length_le, fun h => (takeWhile_eq_of_length h).2⟩

theorem addressbookString_iff (p : PSqlSettings) :
    connInfo p.addressbookString = some (p.place p.database ++
      [("user", p.user), ("password", p.password)] ++ [clientEncoding]) ↔
        PlainText p.host ∧ PlainText p.database ∧ PlainText p.user ∧ PlainText p.password := by
  have htext : p.addressbookString.toList = fields (([("host", cString p.host),
      ("port", toString p.port), ("dbname", cString p.database), ("user", cString p.user),
      ("password", cString p.password)] : List (String × String)).map chars) ++
        optionsText ++ ['\''] := by
    simp [addressbookString, optionsText, clientEncoding, chars]
  obtain ⟨hhost, hhost'⟩ := length_cString p.host
  obtain ⟨hdb, hdb'⟩ := length_cString p.database
  obtain ⟨huser, huser'⟩ := length_cString p.user
  obtain ⟨hpw, hpw'⟩ := length_cString p.password
  constructor
  · intro h
    obtain ⟨hlen, hplain, -⟩ := quoted_le htext
      (by simp only [weight, place, chars, List.map_append, List.map_cons, List.map_nil,
        List.sum_append, List.sum_cons, List.sum_nil]; omega) h
    simp only [weight, place, chars, List.map_append, List.map_cons, List.map_nil,
        List.sum_append, List.sum_cons, List.sum_nil] at hlen
    obtain ⟨hphost, -, hpdb, hpuser, hppw⟩ : Plain p.host.toList ∧ Plain p.port.repr.toList ∧
        Plain p.database.toList ∧ Plain p.user.toList ∧ Plain p.password.toList := by
      simpa [place] using hplain
    exact ⟨⟨hphost, hhost' (by omega)⟩, ⟨hpdb, hdb' (by omega)⟩, ⟨hpuser, huser' (by omega)⟩,
      ⟨hppw, hpw' (by omega)⟩⟩
  · rintro ⟨hhost, hdb, huser, hpw⟩
    rw [cString_of_noNul hhost.2, cString_of_noNul hdb.2, cString_of_noNul huser.2,
      cString_of_noNul hpw.2] at htext
    refine (quoted_iff htext (by simp; decide)).mpr ?_
    simp [hhost, hdb, huser, hpw, plainText_port]

/-- **When libpq reads the parameters** from the four strings: the address book's, and those of
`connect` and of `createSchema`. -/
theorem connInfo_iff (p : PSqlSettings) (adminDb adminUser adminPwd : String) :
    (connInfo p.addressbookString = some (p.place p.database ++
        [("user", p.user), ("password", p.password)] ++ [clientEncoding]) ↔
      PlainText p.host ∧ PlainText p.database ∧ PlainText p.user ∧ PlainText p.password) ∧
    (connInfo p.connectString = some (p.place p.database ++ p.credentials ++ [clientEncoding]) ↔
      PlainText p.host ∧ PlainText p.database ∧
        (p.user = "" ∧ p.password = "" ∨ PlainText p.user ∧ PlainText p.password)) ∧
    (connInfo (p.adminString adminDb adminUser adminPwd) =
        some (p.place adminDb ++ [("user", adminUser), ("password", adminPwd)]) ↔
      PlainText p.host ∧ PlainText adminDb ∧ PlainText adminUser ∧
        (adminPwd = "" ∨ PlainText adminPwd)) ∧
    (connInfo p.ownerString = some (p.place p.database ++ p.credentials) ↔
      PlainText p.host ∧
        (p.user = "" ∧ p.password = "" ∧ (p.database = "" ∨ PlainText p.database) ∨
          PlainText p.database ∧ PlainText p.user ∧ PlainText p.password)) :=
  ⟨p.addressbookString_iff, p.connectString_iff, p.adminString_iff adminDb adminUser adminPwd,
    p.ownerString_iff⟩

/-- Settings without a password. -/
def noPassword : PSqlSettings := ⟨"localhost", 5432, "cmon", "cmon", ""⟩

/-- The options are read as the password. -/
theorem options_swallowed :
    connInfo noPassword.addressbookString ≠ some (noPassword.place noPassword.database ++
        [("user", noPassword.user), ("password", noPassword.password)] ++ [clientEncoding]) ∧
      connInfo noPassword.addressbookString =
        some [("host", "localhost"), ("port", "5432"), ("dbname", "cmon"), ("user", "cmon"),
          ("password", "options='-c"), ("client_encoding", "UTF8'")] := by
  have hread : connInfo noPassword.addressbookString =
      some [("host", "localhost"), ("port", "5432"), ("dbname", "cmon"), ("user", "cmon"),
        ("password", "options='-c"), ("client_encoding", "UTF8'")] := by
    decide +kernel
  refine ⟨fun h => ?_, hread⟩
  rw [hread] at h
  exact absurd h (by decide)

end PSqlSettings
end Cmon
