/-
The URL of `api.get` (`buildUrl` in `crates/runlet-core/src/js/api.js`).

The parameters are put behind the URL as it stands, after `?`, or after `&` where it has one
already. Behind a URL with a fragment they are part of the fragment, and nothing of them is in the
query (`build_url_iff`).
-/
import Runlet.Lib.Uri

set_option autoImplicit false

namespace Runlet.Api

open Text Percent

/-! ## 1. The URL -/

/-- The bytes `encodeURIComponent` leaves alone. -/
def component_keep (b : UInt8) : Bool :=
  (Char.ofNat b.toNat).isAlphanum
    || [0x2d, 0x5f, 0x2e, 0x21, 0x7e, 0x2a, 0x27, 0x28, 0x29].contains b

/-- `encodeURIComponent`, on a well-formed string. -/
def encode_uri_component (s : String) : List Char := utf8_percent_encode component_keep s

/-- One parameter. -/
def piece (param : String × String) : List Char :=
  encode_uri_component param.1 ++ '=' :: encode_uri_component param.2

/-- `buildUrl(url, params)`, with the entries of `params` in the order of `Object.keys`. -/
def build_url (url : List Char) (params : Option (List (String × String))) : List Char :=
  match params with
  -- `if (!params)`
  | none => url
  | some params =>
      let qs := params.map piece
      if qs = [] then url
      else url ++ (if '?' ∈ url then '&' else '?') :: ['&'].intercalate qs

/-! ## 2. One parameter -/

theorem component_keep_plain : Plain component_keep :=
  plain_of_forall (by decide +kernel)

/-- The characters that mean something in a URL or a query. -/
def delimiters : List Char := ['&', '=', '+', '#', '?']

/-- No delimiter of a query is in a component once it is encoded. -/
theorem delimiter_not_mem_encode {c : Char} (hc : c ∈ delimiters) (s : String) :
    c ∉ encode_uri_component s := by
  have hkeep : ∀ n : Fin 256, component_keep (UInt8.ofNat n.val) = true →
      Char.ofNat n.val ∉ delimiters := by decide +kernel
  have hhex : ∀ n : Fin 16, hex_digit n.val ∉ delimiters := by decide
  have hpercent : '%' ∉ delimiters := by decide
  refine not_mem_encode (fun n hn heq => ?_) (fun heq => ?_) (fun n heq => ?_) _
  · exact hkeep n hn (heq ▸ hc)
  · exact hpercent (heq ▸ hc)
  · exact hhex n (heq ▸ hc)

theorem decode_component (s : String) : decode (Uri.plus (encode_uri_component s)) = utf8 s := by
  rw [Uri.plus_of_not_mem (delimiter_not_mem_encode (by decide) s)]
  exact decode_encode component_keep_plain _

/-- A parameter is read as it was written. -/
theorem parse_piece (param : String × String) :
    Uri.parse_pair (piece param) = (utf8 param.1, utf8 param.2) := by
  rw [Uri.parse_pair, piece, Uri.cut_append (delimiter_not_mem_encode (by decide) param.1)]
  show (decode _, decode _) = _
  rw [decode_component, Option.getD_some, decode_component]

theorem not_mem_piece {c : Char} (hc : c ∈ delimiters) (hne : c ≠ '=') (param : String × String) :
    c ∉ piece param := by
  rw [piece, List.mem_append, List.mem_cons, not_or, not_or]
  exact ⟨delimiter_not_mem_encode hc _, hne, delimiter_not_mem_encode hc _⟩

theorem piece_ne_nil (param : String × String) : piece param ≠ [] := by
  rw [piece]
  exact List.append_ne_nil_of_right_ne_nil _ (List.cons_ne_nil _ _)

/-! ## 3. All parameters -/

/-- The text of the parameters. -/
def query_text (params : List (String × String)) : List Char :=
  ['&'].intercalate (params.map piece)

/-- The parameters read back. -/
theorem parse_query_text {params : List (String × String)} (hne : params ≠ []) :
    Uri.parse_form (query_text params) = params.map fun param => (utf8 param.1, utf8 param.2) := by
  have hpieces : ∀ cs ∈ params.map piece, '&' ∉ cs ∧ cs ≠ [] := by
    intro cs hcs
    obtain ⟨param, -, rfl⟩ := List.mem_map.mp hcs
    exact ⟨not_mem_piece (by decide) (by decide) param, piece_ne_nil param⟩
  rw [query_text, Uri.parse_form_intercalate (mt List.map_eq_nil_iff.mp hne) hpieces, List.map_map]
  exact List.map_congr_left fun param _ => parse_piece param

theorem hash_not_mem_query_text (params : List (String × String)) : '#' ∉ query_text params := by
  refine not_mem_intercalate (by decide) fun cs hcs => ?_
  obtain ⟨param, -, rfl⟩ := List.mem_map.mp hcs
  exact not_mem_piece (by decide) (by decide) param

/-- With parameters the URL has them behind it. -/
theorem build_url_eq {url : List Char} {params : Option (List (String × String))}
    (hne : params.getD [] ≠ []) : build_url url params
      = url ++ (if '?' ∈ url then '&' else '?') :: query_text (params.getD []) := by
  cases params with
  | none => exact absurd rfl hne
  | some params => exact if_neg (mt List.map_eq_nil_iff.mp hne)

/-- Without parameters the URL is left as it is. -/
theorem build_url_of_none {url : List Char} {params : Option (List (String × String))}
    (h : params.getD [] = []) : build_url url params = url := by
  cases params with
  | none => rfl
  | some params =>
      rw [Option.getD_some] at h
      rw [h]
      rfl

/-- The URL that is built has the parameters of the URL and then those that were given, and is the
same URL apart from them. -/
structure KeepsParams (url : List Char) (params : List (String × String)) (built : List Char) :
    Prop where
  params : (Uri.parse built).params
    = (Uri.parse url).params ++ params.map fun param => (utf8 param.1, utf8 param.2)
  scheme : (Uri.parse built).scheme = (Uri.parse url).scheme
  authority : (Uri.parse built).authority = (Uri.parse url).authority
  path : (Uri.parse built).path = (Uri.parse url).path
  fragment : (Uri.parse built).fragment = (Uri.parse url).fragment

/-- Two URLs that differ in their queries. -/
theorem keeps_of_assemble {url built hierarchy : List Char} {query query' : Option (List Char)}
    {params : List (String × String)} (hurl : Uri.parse url = Uri.assemble hierarchy query none)
    (hbuilt : Uri.parse built = Uri.assemble hierarchy query' none)
    (hparams : (query'.map Uri.parse_form).getD []
      = (query.map Uri.parse_form).getD [] ++ params.map fun param => (utf8 param.1, utf8 param.2)) :
    KeepsParams url params built := by
  constructor
  · rw [hurl, hbuilt]
    exact hparams
  all_goals
    rw [hurl, hbuilt]
    rfl

/-- **A URL without a fragment keeps its parameters.** They stand behind all that was there
before, so the first `?` and the `#` are where they were. -/
theorem keeps_of_no_fragment {url : List Char} {params : List (String × String)}
    (hne : params ≠ []) (hhash : '#' ∉ url) : KeepsParams url params
      (url ++ (if '?' ∈ url then '&' else '?') :: query_text params) := by
  have hread := parse_query_text hne
  have htext := hash_not_mem_query_text params
  by_cases hquestion : '?' ∈ url
  · rw [if_pos hquestion]
    obtain ⟨front, query, rfl, hfront⟩ := List.eq_append_cons_of_mem hquestion
    rw [List.mem_append, List.mem_cons, not_or, not_or] at hhash
    obtain ⟨hhash, -, hquery⟩ := hhash
    have hmore : '#' ∉ '&' :: query_text params := by
      rw [List.mem_cons, not_or]
      exact ⟨by decide, htext⟩
    refine keeps_of_assemble (Uri.parse_append_query hhash hfront hquery).2
      (Uri.parse_append_more hhash hfront hquery hmore) ?_
    rw [Option.map_some, Option.map_some, Option.getD_some, Option.getD_some,
      Uri.parse_form_append, hread]
  · rw [if_neg hquestion]
    obtain ⟨hurl, hbuilt⟩ := Uri.parse_append_query hhash hquestion htext
    exact keeps_of_assemble hurl hbuilt hread

/-- Every parameter is in the query, and the rest of the URL is as it was, iff there is no parameter
or the URL has no fragment. -/
theorem build_url_iff (url : List Char) (params : Option (List (String × String))) :
    KeepsParams url (params.getD []) (build_url url params)
      ↔ params.getD [] = [] ∨ '#' ∉ url := by
  by_cases hnone : params.getD [] = []
  · rw [build_url_of_none hnone, hnone]
    refine iff_of_true ?_ (Or.inl rfl)
    exact ⟨(List.append_nil _).symm, rfl, rfl, rfl, rfl⟩
  · rw [build_url_eq hnone, or_iff_right hnone]
    constructor
    · intro h hhash
      obtain ⟨fragment, hfragment, hmore⟩ := Uri.fragment_append hhash
      have hsame := h.fragment
      rw [hmore, hfragment, Option.some.injEq, List.append_right_eq_self] at hsame
      cases hsame
    · exact keeps_of_no_fragment hnone

/-- A parameter behind a fragment. -/
theorem fragment_swallows_page : ¬ ∀ (url : List Char) (params : Option (List (String × String))),
    KeepsParams url (params.getD []) (build_url url params) := by
  intro hall
  have h := (hall "https://h/p#top".toList (some [("page", "1")])).fragment
  exact absurd h (by decide)

end Runlet.Api
