import Cmon.Library.Replacement
import Cmon.Resolver.Worker

/-!
# Resolver — a page of the web

`CRegExWebResolver::resolve`, and the replacements by which it decodes the name that the regular
expression finds in a page.  The page and the expression are parameters.

* `resolve_eq`: the resolver as the worker knows it.
* `decodes_iff`: a name that was encoded is decoded when none of the entities but `&amp;` stands
  in the name itself.
-/

namespace Cmon
open Library Replacement

/-! ### The source -/

/-- `wxString::Replace`. -/
def replaceText (t strOld strNew : String) : String :=
  String.ofList (replaceAll strOld.toList strNew.toList t.toList)

/-- The entities, in the order of their replacements. -/
def htmlEntities : List (String × Char) :=
  [("&amp;", '&'), ("&lt;", '<'), ("&gt;", '>'), ("&quot;", '"'), ("&nbsp;", ' '), ("&auml;", 'ä'),
    ("&ouml;", 'ö'), ("&uuml;", 'ü'), ("&Auml;", 'Ä'), ("&Ouml;", 'Ö'), ("&Uuml;", 'Ü'),
    ("&szlig;", 'ß')]

/-- The replacements in `strResolvedName`. -/
def decodeEntities (strResolvedName : String) : String :=
  htmlEntities.foldl (fun t r => replaceText t r.1 (String.singleton r.2)) strResolvedName

/-- `CRegExWebResolver`; of a regular expression that is valid, the first group of a match. -/
structure RegExWebResolver where
  enabled : Bool
  strURL : String
  regEx : Option (String → Option String)

namespace RegExWebResolver

/-- The name in the page for a number; `web` is what is read from an address. -/
def page (r : RegExWebResolver) (web : String → Option String) (strNumber : String) :
    Option String := do
  let regEx ← r.regEx
  let strResult ← web (replaceText r.strURL "{Nr}" strNumber)
  if strResult.isEmpty then none
  else
    let strResolvedName ← regEx strResult
    some (decodeEntities strResolvedName)

/-- `resolve`. -/
def resolve (r : RegExWebResolver) (web : String → Option String) (strNumber : String)
    (resolvedContact : Contact) : Bool × Contact :=
  if !r.enabled || r.regEx.isNone then (false, resolvedContact)
  else
    match r.page web strNumber with
    | none => (false, resolvedContact)
    | some strResolvedName => (true, resolvedContact.setSN strResolvedName)

/-- The resolver in the list of the worker. -/
theorem resolve_eq (r : RegExWebResolver) (web : String → Option String) (strNumber : String)
    (c : Contact) :
    r.resolve web strNumber c =
      (NumberResolver.onlineRegex r.enabled (r.page web)).resolve strNumber c := by
  rw [resolve, NumberResolver.resolve]
  cases r.enabled with
  | false => rfl
  | true =>
      cases h : r.regEx with
      | none =>
          have hpage : r.page web strNumber = none := by rw [page, h]; rfl
          rw [hpage]
          rfl
      | some regEx => rfl

/-! ### Encoded names -/

/-- An entity, by its characters. -/
def entry (r : String × Char) : Entry Char := (r.1.toList, r.2)

/-- The entities but `&amp;`. -/
def laterEntities : List (String × Char) := htmlEntities.tail

/-- The entities that a name is encoded with, but `&amp;`; a blank stays a blank. -/
def encoded : List (String × Char) := laterEntities.filter (·.1 ≠ "&nbsp;")

/-- The words of an encoding. -/
def encodedWords : List (Entry Char) := ("&amp;".toList, '&') :: encoded.map entry

/-- The characters that are always written as their entities. -/
def special : List Char := ['&', '<', '>', '"']

/-- `e` is an HTML encoding of `s`: each `&`, `<`, `>` and `"` is written as its entity, an umlaut
may be, and every other character stands for itself. -/
def Encodes (s e : String) : Prop := Written (· ∉ special) encodedWords s.toList e.toList

/-- An encoding, with the entities of the umlauts that `choose` holds of. -/
def encodeHtml (choose : Char → Bool) (s : String) : String :=
  String.ofList (s.toList.flatMap encodeChar)
where
  encodeChar (c : Char) : List Char :=
    match encodedWords.find? (·.2 = c) with
    | some e => if c ∈ special || choose c then e.1 else [c]
    | none => [c]

/-- No entity but `&amp;` stands in the name. -/
def Unreferenced (s : String) : Prop := ∀ r ∈ laterEntities, ¬ r.1.toList <:+: s.toList

instance (s : String) : Decidable (Unreferenced s) := inferInstanceAs (Decidable (∀ r ∈ _, _))

/-! ### What is decoded -/

theorem toList_decodeEntities (t : String) :
    (decodeEntities t).toList =
      (htmlEntities.map entry).foldl (fun t e => replaceAll e.1 [e.2] t) t.toList := by
  have hfold : ∀ (rs : List (String × Char)) (t : String),
      (rs.foldl (fun t r => replaceText t r.1 (String.singleton r.2)) t).toList =
        (rs.map entry).foldl (fun t e => replaceAll e.1 [e.2] t) t.toList := by
    intro rs
    induction rs with
    | nil => exact fun _ => rfl
    | cons r rs ih =>
        intro t
        rw [List.foldl_cons, ih, List.map_cons, List.foldl_cons, replaceText,
          String.toList_ofList, String.toList_singleton, entry]
  exact hfold _ t

theorem map_htmlEntities :
    htmlEntities.map entry = ("&amp;".toList, '&') :: laterEntities.map entry := rfl

theorem starts_htmlEntities : Starts '&' (htmlEntities.map entry) := by
  have h : ∀ e ∈ htmlEntities.map entry, e.1 = '&' :: e.1.tail ∧ '&' ∉ e.1.tail := by
    decide +kernel
  exact fun e he => ⟨e.1.tail, h e he⟩

theorem prefixFree_htmlEntities : PrefixFree (htmlEntities.map entry) := by
  unfold PrefixFree
  decide +kernel

theorem marked_laterEntities : Marked '&' (laterEntities.map entry) := by
  refine ⟨fun e he => starts_htmlEntities e (List.mem_cons_of_mem _ he), ?_⟩
  decide +kernel

theorem encodedWords_subset : encodedWords ⊆ htmlEntities.map entry := by
  refine List.cons_subset.mpr ⟨List.mem_cons_self, List.map_subset entry fun r hr => ?_⟩
  exact List.mem_of_mem_tail (List.mem_of_mem_filter hr)

/-- Every name has its encodings. -/
theorem encodes_encodeHtml (choose : Char → Bool) (s : String) :
    Encodes s (encodeHtml choose s) := by
  have hspecial : ∀ c ∈ special, ∃ e ∈ encodedWords, e.2 = c := by
    refine List.forall_iff_forall_mem.mp ?_
    decide +kernel
  rw [Encodes, encodeHtml, String.toList_ofList]
  induction s.toList with
  | nil => exact .nil
  | cons c s ih =>
      rw [List.flatMap_cons, encodeHtml.encodeChar]
      cases hfind : encodedWords.find? (·.2 = c) with
      | none =>
          refine ih.copy fun hc => ?_
          obtain ⟨e, he, hec⟩ := hspecial c hc
          exact List.find?_eq_none.mp hfind e he (decide_eq_true hec)
      | some e =>
          obtain rfl : e.2 = c := of_decide_eq_true (List.find?_some hfind :)
          by_cases hc : (decide (e.2 ∈ special) || choose e.2) = true
          · simp only [hc, if_true]
            exact ih.word (List.mem_of_find?_eq_some hfind)
          · simp only [hc, Bool.false_eq_true, if_false]
            refine ih.copy fun hmem => hc ?_
            rw [decide_eq_true hmem, Bool.true_or]

/-- **When an encoded name is decoded**: when no entity but `&amp;` stands in it. -/
theorem decodes_iff {s e : String} (h : Encodes s e) : decodeEntities e = s ↔ Unreferenced s := by
  have hlater : laterEntities.map entry ⊆ htmlEntities.map entry := List.subset_cons_self _ _
  have hencoded : encoded.map entry ⊆ laterEntities.map entry :=
    List.map_subset entry fun r hr => List.mem_of_mem_filter hr
  have hlong : ∀ e ∈ laterEntities.map entry, 1 < e.1.length := by decide +kernel
  -- the first pass leaves the other entities, and those that stand in the name
  have hfirst : Written (fun _ => True) (encoded.map entry) s.toList
      (replaceAll "&amp;".toList ['&'] e.toList) :=
    h.replaceAll (fun hplain => hplain List.mem_cons_self)
      (fun f hf => starts_htmlEntities f (encodedWords_subset hf))
      (prefixFree_htmlEntities.mono encodedWords_subset)
  have hdecoded : (decodeEntities e).toList = substitute (laterEntities.map entry) s.toList := by
    rw [toList_decodeEntities, map_htmlEntities, List.foldl_cons,
      foldl_replaceAll marked_laterEntities, substitute_written hfirst
      marked_laterEntities (prefixFree_htmlEntities.mono hlater) hencoded]
  rw [← String.toList_inj, hdecoded, substitute_eq_self_iff hlong]
  exact List.forall_mem_map

/-! ### A name with an entity -/

/-- A name without one is read from a page. -/
theorem decodes_mueller :
    decodeEntities (encodeHtml (· = 'ü') "Müller & Söhne") = "Müller & Söhne" :=
  (decodes_iff (encodes_encodeHtml _ _)).mpr (by decide +kernel)

/-- The text `&lt;` is decoded twice. -/
theorem decoded_twice :
    Encodes "&lt;" "&amp;lt;" ∧ decodeEntities "&amp;lt;" = "<" := by
  have hencode : encodeHtml (· = 'ü') "&lt;" = "&amp;lt;" := by decide +kernel
  exact ⟨hencode ▸ encodes_encodeHtml _ _, by decide +kernel⟩

end RegExWebResolver
end Cmon
