/-
The canonical queries of the s3 requests (`crates/runlet-core/src/s3.rs`):
`canonical_query_from_pairs`, which encodes and sorts the pairs it is given, and
`build_canonical_query`, which writes five of them in an order kept by hand.

A query is read back by splitting it at `&` and `=` and decoding the pieces
(`parse_query`). An encoded piece has neither of the two characters in it, so the
pieces are the ones that were joined.
-/
import Mathlib.Data.List.Sort
import Runlet.S3.Store

set_option autoImplicit false

namespace Runlet.S3

open Text Hex Percent

/-! ## 1. Encoded pieces -/

/-- The unreserved characters of a URI. -/
def unreserved (c : Char) : Bool :=
  c.isAlphanum || c == '-' || c == '_' || c == '.' || c == '~'

/-- An uppercase hexadecimal digit. -/
def upper_hex (c : Char) : Bool := c.isDigit || ('A' ≤ c && c ≤ 'F')

/-- Unreserved characters and `%XX` escapes, and nothing else. -/
inductive Escaped : List Char → Prop
  | nil : Escaped []
  | kept {c : Char} {cs : List Char} (hc : unreserved c = true) (h : Escaped cs) : Escaped (c :: cs)
  | escape {hi lo : Char} {cs : List Char} (hhi : upper_hex hi = true) (hlo : upper_hex lo = true)
    (h : Escaped cs) : Escaped ('%' :: hi :: lo :: cs)

/-- The bytes that are kept are unreserved. -/
theorem unreserved_of_segment_keep {b : UInt8} (h : segment_keep b = true) :
    unreserved (Char.ofNat b.toNat) = true := by
  have hall : ∀ n : Fin 256, segment_keep (UInt8.ofNat n.val) = true →
      unreserved (Char.ofNat n.val) = true := by decide +kernel
  have hb := hall ⟨b.toNat, b.toNat_lt⟩
  rw [UInt8.ofNat_toNat] at hb
  exact hb h

theorem upper_hex_hex_digit : ∀ n : Fin 16, upper_hex (hex_digit n.val) = true := by decide

/-- What is encoded has only unreserved characters and escapes. -/
theorem escaped_encode (bytes : List UInt8) : Escaped (encode segment_keep bytes) := by
  induction bytes with
  | nil => exact .nil
  | cons b bytes ih =>
      have hb := b.toNat_lt
      rw [encode, List.flatMap_cons, ← encode, encode_byte]
      by_cases hkeep : segment_keep b = true
      · rw [if_pos hkeep, List.singleton_append]
        exact .kept (unreserved_of_segment_keep hkeep) ih
      · rw [if_neg hkeep, List.cons_append, List.cons_append, List.cons_append, List.nil_append]
        exact .escape (upper_hex_hex_digit ⟨b.toNat / 16, by omega⟩)
          (upper_hex_hex_digit ⟨b.toNat % 16, by omega⟩) ih

theorem escaped_encode_token (value : String) : Escaped (encode_token value).toList := by
  rw [encode_token, String.toList_ofList]
  exact escaped_encode _

/-- A character that is neither unreserved nor part of an escape does not occur. So the separators
of a query are never those of an encoded name or value. -/
theorem Escaped.not_mem {cs : List Char} (h : Escaped cs) {c : Char} (hc : unreserved c = false)
    (hhex : upper_hex c = false) (hpercent : c ≠ '%') : c ∉ cs := by
  induction h with
  | nil => exact List.not_mem_nil
  | @kept d cs hd _ ih =>
      rw [List.mem_cons, not_or]
      refine ⟨?_, ih⟩
      rintro rfl
      rw [hd] at hc
      cases hc
  | @escape hi lo cs hhi hlo _ ih =>
      rw [List.mem_cons, List.mem_cons, List.mem_cons, not_or, not_or, not_or]
      refine ⟨hpercent, ?_, ?_, ih⟩
      · rintro rfl
        rw [hhi] at hhex
        cases hhex
      · rintro rfl
        rw [hlo] at hhex
        cases hhex

theorem segment_keep_plain : Plain segment_keep :=
  plain_of_forall (by decide +kernel)

theorem decode_encode_token (value : String) : decode (encode_token value).toList = utf8 value := by
  rw [encode_token, String.toList_ofList]
  exact decode_encode segment_keep_plain _

theorem encode_token_injective {a b : String} (h : encode_token a = encode_token b) : a = b := by
  apply utf8_injective
  rw [← decode_encode_token, ← decode_encode_token, h]

/-- The unreserved characters are ASCII. -/
theorem ascii_of_unreserved {c : Char} (h : unreserved c = true) : c.toNat < 128 := by
  delta unreserved Char.isAlphanum Char.isAlpha Char.isUpper Char.isLower Char.isDigit at h
  simp only [Bool.or_eq_true, Bool.and_eq_true, decide_eq_true_eq, beq_iff_eq,
    UInt32.le_iff_toNat_le, ge_iff_le] at h
  have hc : c.toNat = c.val.toNat := rfl
  have hZ : 'Z'.val.toNat = 90 := rfl
  have hz : 'z'.val.toNat = 122 := rfl
  have h9 : '9'.val.toNat = 57 := rfl
  rcases h with (((h | rfl) | rfl) | rfl) | rfl
  · omega
  all_goals decide

/-- The digits are ASCII. -/
theorem ascii_of_upper_hex {c : Char} (h : upper_hex c = true) : c.toNat < 128 := by
  simp only [upper_hex, Char.isDigit, Bool.or_eq_true, Bool.and_eq_true, decide_eq_true_eq,
    UInt32.le_iff_toNat_le, ge_iff_le, Char.le_def] at h
  have hc : c.toNat = c.val.toNat := rfl
  have hF : 'F'.val.toNat = 70 := rfl
  have h9 : '9'.val.toNat = 57 := rfl
  omega

/-- A text of unreserved characters is its own encoding. Each is one byte, and that byte is kept.
-/
theorem encode_token_of_unreserved {value : String} (h : ∀ c ∈ value.toList, unreserved c = true) :
    encode_token value = value := by
  have hall : ∀ n : Fin 128, unreserved (Char.ofNat n.val) = true →
      (String.utf8EncodeChar (Char.ofNat n.val)).flatMap (encode_byte segment_keep)
        = [Char.ofNat n.val] := by decide +kernel
  rw [encode_token, utf8_percent_encode, utf8, encode, List.flatMap_assoc]
  have hself : ∀ cs : List Char, (∀ c ∈ cs, unreserved c = true) →
      cs.flatMap (fun c => (String.utf8EncodeChar c).flatMap (encode_byte segment_keep)) = cs := by
    intro cs hcs
    induction cs with
    | nil => rfl
    | cons c cs ih =>
        rw [List.forall_mem_cons] at hcs
        have hc := hall ⟨c.toNat, ascii_of_unreserved hcs.1⟩
        simp only [Char.ofNat_toNat] at hc
        rw [List.flatMap_cons, hc hcs.1, ih hcs.2, List.singleton_append]
  rw [hself _ h, String.ofList_toList]

/-! ## 2. Order

The names are compared as texts, character by character. Encoded they are ASCII, where a
character is its byte. -/

/-- So is an escaped text. -/
theorem Escaped.ascii {cs : List Char} (h : Escaped cs) : ∀ c ∈ cs, c.toNat < 128 := by
  induction h with
  | nil => simp
  | kept hc _ ih =>
      rw [List.forall_mem_cons]
      exact ⟨ascii_of_unreserved hc, ih⟩
  | escape hhi hlo _ ih =>
      rw [List.forall_mem_cons, List.forall_mem_cons, List.forall_mem_cons]
      exact ⟨by decide, ascii_of_upper_hex hhi, ascii_of_upper_hex hlo, ih⟩

theorem utf8_cons_of_ascii {c : Char} (h : c.toNat < 128) (cs : List Char) :
    (c :: cs).flatMap String.utf8EncodeChar
      = UInt8.ofNat c.toNat :: cs.flatMap String.utf8EncodeChar := by
  rw [List.flatMap_cons, utf8EncodeChar_ascii h, List.singleton_append]

/-- On ASCII texts the order of the characters is the order of the bytes. By induction on the two
texts, as each character is the one byte of its number. -/
theorem utf8_lt_of_lt {as bs : List Char} (ha : ∀ c ∈ as, c.toNat < 128)
    (hb : ∀ c ∈ bs, c.toNat < 128) (h : as < bs) :
    as.flatMap String.utf8EncodeChar < bs.flatMap String.utf8EncodeChar := by
  induction as generalizing bs with
  | nil =>
      cases bs with
      | nil => exact absurd h (List.not_lt_nil _)
      | cons b bs =>
          rw [List.forall_mem_cons] at hb
          rw [utf8_cons_of_ascii hb.1]
          exact List.nil_lt_cons _ _
  | cons a as ih =>
      cases bs with
      | nil => exact absurd h (List.not_lt_nil _)
      | cons b bs =>
          rw [List.forall_mem_cons] at ha hb
          rw [utf8_cons_of_ascii ha.1, utf8_cons_of_ascii hb.1, List.cons_lt_cons_iff]
          rcases List.cons_lt_cons_iff.mp h with hlt | ⟨rfl, hlt⟩
          · left
            have hlt' : a.toNat < b.toNat := hlt
            rw [UInt8.lt_iff_toNat_lt, UInt8.toNat_ofNat', UInt8.toNat_ofNat']
            omega
          · exact Or.inr ⟨rfl, ih ha.2 hb.2 hlt⟩

theorem utf8_encode_token_lt {a b : String} (h : encode_token a < encode_token b) :
    utf8 (encode_token a) < utf8 (encode_token b) :=
  utf8_lt_of_lt (escaped_encode_token a).ascii (escaped_encode_token b).ascii
    (String.lt_iff_toList_lt.mp h)

/-- The pairs in the order of the query. -/
def sorted_pairs (pairs : List (String × String)) : List (String × String) :=
  pairs.mergeSort fun left right => decide (encode_token left.1 ≤ encode_token right.1)

theorem perm_sorted_pairs (pairs : List (String × String)) : (sorted_pairs pairs).Perm pairs :=
  List.mergeSort_perm _ _

/-- The pairs are sorted by their encoded names. -/
theorem sorted_pairs_le (pairs : List (String × String)) :
    (sorted_pairs pairs).Pairwise fun l r => encode_token l.1 ≤ encode_token r.1 := by
  have hsorted : (sorted_pairs pairs).Pairwise fun l r =>
      decide (encode_token l.1 ≤ encode_token r.1) = true := by
    apply List.pairwise_mergeSort
    · intro a b c hab hbc
      rw [decide_eq_true_eq] at hab hbc ⊢
      exact le_trans hab hbc
    · intro a b
      rw [Bool.or_eq_true, decide_eq_true_eq, decide_eq_true_eq]
      exact le_total _ _
  exact hsorted.imp fun h => of_decide_eq_true h

/-- Under names of their own, the pairs stand in strictly ascending order. -/
theorem sorted_pairs_lt {pairs : List (String × String)} (h : (pairs.map Prod.fst).Nodup) :
    (sorted_pairs pairs).Pairwise fun l r => encode_token l.1 < encode_token r.1 := by
  have hnodup : ((sorted_pairs pairs).map Prod.fst).Nodup :=
    ((perm_sorted_pairs pairs).map Prod.fst).nodup_iff.mpr h
  rw [List.nodup_iff_pairwise_ne, List.pairwise_map] at hnodup
  refine (sorted_pairs_le pairs).imp₂ ?_ hnodup
  intro l r hle hne
  exact lt_of_le_of_ne hle fun heq => hne (encode_token_injective heq)

/-- Names that strictly ascend are all different. -/
theorem nodup_of_sorted {sorted : List (String × String)}
    (h : sorted.Pairwise fun l r => encode_token l.1 < encode_token r.1) :
    (sorted.map Prod.fst).Nodup := by
  rw [List.nodup_iff_pairwise_ne, List.pairwise_map]
  refine h.imp ?_
  intro l r hlt heq
  rw [heq] at hlt
  exact lt_irrefl _ hlt

/-- The order is theirs alone, however they were given. -/
theorem sorted_pairs_eq {pairs sorted : List (String × String)} (hperm : sorted.Perm pairs)
    (hsorted : sorted.Pairwise fun l r => encode_token l.1 < encode_token r.1) :
    sorted_pairs pairs = sorted := by
  have hnodup : (pairs.map Prod.fst).Nodup :=
    (hperm.map Prod.fst).nodup_iff.mp (nodup_of_sorted hsorted)
  refine List.Perm.eq_of_pairwise ?_ (sorted_pairs_lt hnodup) hsorted
    ((perm_sorted_pairs pairs).trans hperm.symm)
  intro a b _ _ hab hba
  exact absurd hba (lt_asymm hab)

/-! ## 3. Queries -/

/-- One piece of a query: the bytes of its name and of its value. -/
def parse_pair (piece : List Char) : Option (List UInt8 × List UInt8) :=
  match piece.splitOn '=' with
  | [name, value] => some (decode name, decode value)
  | _ => none

/-- A query, split at `&` and at `=`, and decoded. -/
def parse_query (query : List Char) : Option (List (List UInt8 × List UInt8)) :=
  if query = [] then some [] else (query.splitOn '&').mapM parse_pair

/-- A pair as it stands in a query. -/
def piece (p : String × String) : List Char :=
  (encode_token p.1).toList ++ '=' :: (encode_token p.2).toList

theorem ampersand_not_mem_piece (p : String × String) : '&' ∉ piece p := by
  rw [piece, List.mem_append, List.mem_cons, not_or, not_or]
  exact ⟨(escaped_encode_token p.1).not_mem rfl rfl (by decide), by decide,
    (escaped_encode_token p.2).not_mem rfl rfl (by decide)⟩

/-- A pair is read as it was written. -/
theorem parse_piece (p : String × String) : parse_pair (piece p) = some (utf8 p.1, utf8 p.2) := by
  have hname : '=' ∉ (encode_token p.1).toList :=
    (escaped_encode_token p.1).not_mem rfl rfl (by decide)
  have hvalue : '=' ∉ (encode_token p.2).toList :=
    (escaped_encode_token p.2).not_mem rfl rfl (by decide)
  have hsplit : (piece p).splitOn '=' = [(encode_token p.1).toList, (encode_token p.2).toList] := by
    rw [piece, List.splitOn_append_cons_self_of_not_mem hname, List.splitOn_eq_singleton hvalue]
  rw [parse_pair, hsplit, ← decode_encode_token, ← decode_encode_token]

/-- The query is its pieces, in order. -/
theorem canonical_query_eq (pairs : List (String × String)) :
    canonical_query_from_pairs pairs
      = "&".intercalate ((sorted_pairs pairs).map fun p =>
        encode_token p.1 ++ "=" ++ encode_token p.2) := by
  have hsort : (sorted_pairs pairs).map (fun p => (encode_token p.1, encode_token p.2))
      = (pairs.map fun p => (encode_token p.1, encode_token p.2)).mergeSort
        fun left right => decide (left.1 ≤ right.1) :=
    List.map_mergeSort fun _ _ _ _ => rfl
  unfold canonical_query_from_pairs
  simp only [← hsort]
  rw [List.map_map]
  rfl

/-- The query is its pairs with `&` between them. -/
theorem canonical_query_toList (pairs : List (String × String)) :
    (canonical_query_from_pairs pairs).toList
      = ['&'].intercalate ((sorted_pairs pairs).map piece) := by
  have hseparator : "&".toList = ['&'] := rfl
  have hpieces : (sorted_pairs pairs).map (String.toList ∘ fun p : String × String =>
      encode_token p.1 ++ "=" ++ encode_token p.2) = (sorted_pairs pairs).map piece := by
    apply List.map_congr_left
    intro p _
    rw [Function.comp_apply, String.toList_append, String.toList_append, List.append_assoc]
    rfl
  rw [canonical_query_eq, String.toList_intercalate, List.map_map, hseparator, hpieces]

/-- The query reads back as its pairs, in the sorted order. The separators stand in no encoded
part, so the text is cut where it was put together, and decoding undoes the encoding. -/
theorem parse_canonical_query (pairs : List (String × String)) :
    parse_query (canonical_query_from_pairs pairs).toList
      = some ((sorted_pairs pairs).map fun p => (utf8 p.1, utf8 p.2)) := by
  rw [canonical_query_toList, parse_query]
  cases hsorted : sorted_pairs pairs with
  | nil => rfl
  | cons p rest =>
      have hpieces : ∀ cs ∈ (p :: rest).map piece, '&' ∉ cs := by
        intro cs hcs
        obtain ⟨q, -, rfl⟩ := List.mem_map.mp hcs
        exact ampersand_not_mem_piece q
      have hne : ['&'].intercalate ((p :: rest).map piece) ≠ [] := by
        intro hnil
        have hsplit := List.splitOn_intercalate '&' hpieces (by simp)
        rw [hnil, List.map_cons] at hsplit
        have hpiece : ([] : List Char) = piece p := (List.cons.inj hsplit).1
        rw [piece] at hpiece
        simp at hpiece
      rw [if_neg hne, List.splitOn_intercalate '&' hpieces (by simp)]
      generalize p :: rest = sorted
      induction sorted with
      | nil => rfl
      | cons q rest ih => rw [List.map_cons, List.mapM_cons, parse_piece, ih]; rfl

/-- A query with another one after it. -/
theorem parse_query_append {query rest : List Char} (hquery : query ≠ []) (hrest : rest ≠ []) :
    parse_query (query ++ '&' :: rest)
      = (parse_query query).bind fun pairs => (parse_query rest).map (pairs ++ ·) := by
  have hne : query ++ '&' :: rest ≠ [] := List.append_ne_nil_of_left_ne_nil hquery _
  rw [parse_query, parse_query, parse_query, if_neg hne, if_neg hquery, if_neg hrest,
    List.splitOn_append_cons_self, List.mapM_append]
  cases (query.splitOn '&').mapM parse_pair with
  | none => rfl
  | some pairs =>
      cases (rest.splitOn '&').mapM parse_pair with
      | none => rfl
      | some more => rfl

/-- Two lists of pairs with one query are the same pairs. -/
theorem perm_of_canonical_query_eq {ps qs : List (String × String)}
    (h : canonical_query_from_pairs ps = canonical_query_from_pairs qs) : ps.Perm qs := by
  have hparse := parse_canonical_query ps
  rw [h, parse_canonical_query, Option.some.injEq] at hparse
  have hinj : Function.Injective fun p : String × String => (utf8 p.1, utf8 p.2) := by
    intro p q hpq
    rw [Prod.mk.injEq] at hpq
    exact Prod.ext (utf8_injective hpq.1) (utf8_injective hpq.2)
  have hsorted := List.map_injective_iff.mpr hinj hparse
  exact (perm_sorted_pairs ps).symm.trans (hsorted ▸ perm_sorted_pairs qs)

/-! ## 4. The two builders -/

/-- The pairs of a presigned request. -/
def presign_pairs (access_key scope amz_date : String) (expires : UInt64) : List (String × String) :=
  [("X-Amz-Algorithm", "AWS4-HMAC-SHA256"), ("X-Amz-Credential", access_key ++ "/" ++ scope),
    ("X-Amz-Date", amz_date), ("X-Amz-Expires", toString expires.toNat),
    ("X-Amz-SignedHeaders", "host")]

/-- The pairs of a list request, as `build_list_url` puts them together. -/
def list_pairs (config : S3Config) (now : Timestamps) (target : ListTarget)
    (token : Option String) : List (String × String) :=
  [("X-Amz-Algorithm", "AWS4-HMAC-SHA256"),
    ("X-Amz-Credential", config.access_key ++ "/" ++ credential_scope config now.datestamp),
    ("X-Amz-Date", now.amz_date), ("X-Amz-Expires", "60"), ("X-Amz-SignedHeaders", "host"),
    ("list-type", "2"), ("max-keys", "1000")]
  ++ (if target.prefix_text = "" then [] else [("prefix", target.prefix_text)])
  ++ token.toList.map fun continuation => ("continuation-token", continuation)

/-- The URL of a list request has the query of these pairs in it. -/
theorem build_list_url_eq_ok {config : S3Config} {env : Env} {target : ListTarget}
    {token : Option String} {url : String} (h : build_list_url config env target token = .ok url) :
    ∃ now signature, env.current_timestamps = .ok now
      ∧ (∃ bytes, signature = hex_encode bytes)
      ∧ url = target.scheme ++ "://" ++ target.host ++ list_uri config ++ "?"
        ++ canonical_query_from_pairs (list_pairs config now target token)
        ++ "&X-Amz-Signature=" ++ signature := by
  unfold build_list_url at h
  obtain ⟨now, hnow, h⟩ := Result.bind_eq_ok.mp h
  obtain ⟨signature, hsign, h⟩ := Result.bind_eq_ok.mp h
  refine ⟨now, signature, hnow, ?_, (Except.ok.inj h).symm⟩
  unfold sign at hsign
  obtain ⟨key, -, hsign⟩ := Result.bind_eq_ok.mp hsign
  obtain ⟨bytes, -, hsign⟩ := Result.bind_eq_ok.mp hsign
  exact ⟨bytes, (Except.ok.inj hsign).symm⟩

/-- No parameter of a listing comes twice. -/
theorem nodup_list_pairs (config : S3Config) (now : Timestamps) (target : ListTarget)
    (token : Option String) : ((list_pairs config now target token).map Prod.fst).Nodup := by
  unfold list_pairs
  cases token <;> split <;>
    simp only [Option.toList_none, Option.toList_some, List.map_nil, List.map_cons, List.append_nil,
      List.cons_append, List.nil_append] <;> decide

theorem unreserved_of_isDigit {c : Char} (h : c.isDigit = true) : unreserved c = true := by
  rw [unreserved, Char.isAlphanum, h, Bool.or_true]
  rfl

/-- A number is left as it is. -/
theorem encode_token_number (n : ℕ) : encode_token (toString n) = toString n := by
  apply encode_token_of_unreserved
  intro c hc
  have hdigits : (toString n).toList = Nat.toDigits 10 n := by
    show (Nat.repr n).toList = _
    rw [Nat.repr, String.toList_ofList]
  rw [hdigits] at hc
  exact unreserved_of_isDigit (Nat.isDigit_of_mem_toDigits (by decide) (by decide) hc)

/-- The order kept by hand is the sorted one. -/
theorem sorted_presign_pairs (access_key scope amz_date : String) (expires : UInt64) :
    (presign_pairs access_key scope amz_date expires).Pairwise
      fun l r => encode_token l.1 < encode_token r.1 := by
  have hnames : ["X-Amz-Algorithm", "X-Amz-Credential", "X-Amz-Date", "X-Amz-Expires",
      "X-Amz-SignedHeaders"].Pairwise fun l r => encode_token l < encode_token r := by
    decide +kernel
  have hmap : (presign_pairs access_key scope amz_date expires).map Prod.fst
      = ["X-Amz-Algorithm", "X-Amz-Credential", "X-Amz-Date", "X-Amz-Expires",
        "X-Amz-SignedHeaders"] := rfl
  rw [← hmap, List.pairwise_map] at hnames
  exact hnames

/-- The two builders write one and the same query. The pairs of a presigned request are written in
their sorted order by the one; sorting puts any order of them into that one. -/
theorem canonical_query_presign {access_key scope amz_date : String} {expires : UInt64}
    {pairs : List (String × String)}
    (h : pairs.Perm (presign_pairs access_key scope amz_date expires)) :
    canonical_query_from_pairs pairs
      = build_canonical_query access_key scope amz_date expires := by
  have hsorted := sorted_pairs_eq h.symm (sorted_presign_pairs access_key scope amz_date expires)
  -- the names and the fixed values are written as they are
  have hname : ∀ name ∈ ["X-Amz-Algorithm", "X-Amz-Credential", "X-Amz-Date", "X-Amz-Expires",
      "X-Amz-SignedHeaders", "AWS4-HMAC-SHA256", "host"], encode_token name = name := by
    decide +kernel
  have hfirst : "X-Amz-Algorithm=AWS4-HMAC-SHA256&X-Amz-Credential=" = "X-Amz-Algorithm"
      ++ ("=" ++ ("AWS4-HMAC-SHA256" ++ ("&" ++ ("X-Amz-Credential" ++ "=")))) := by decide
  have hdate : "&X-Amz-Date=" = "&" ++ ("X-Amz-Date" ++ "=") := by decide
  have hexpires : "&X-Amz-Expires=" = "&" ++ ("X-Amz-Expires" ++ "=") := by decide
  have hlast : "&X-Amz-SignedHeaders=host"
      = "&" ++ ("X-Amz-SignedHeaders" ++ ("=" ++ "host")) := by decide
  have hbuild : build_canonical_query access_key scope amz_date expires
      = "X-Amz-Algorithm=AWS4-HMAC-SHA256&X-Amz-Credential="
        ++ encode_token (access_key ++ "/" ++ scope) ++ "&X-Amz-Date=" ++ encode_token amz_date
        ++ "&X-Amz-Expires=" ++ toString expires.toNat ++ "&X-Amz-SignedHeaders=host" := rfl
  rw [hbuild, canonical_query_eq, hsorted, presign_pairs]
  simp only [List.map_cons, List.map_nil, encode_token_number]
  rw [hname "X-Amz-Algorithm" (by decide), hname "X-Amz-Credential" (by decide),
    hname "X-Amz-Date" (by decide), hname "X-Amz-Expires" (by decide),
    hname "X-Amz-SignedHeaders" (by decide), hname "AWS4-HMAC-SHA256" (by decide),
    hname "host" (by decide)]
  generalize encode_token (access_key ++ "/" ++ scope) = credential
  generalize encode_token amz_date = date
  generalize toString expires.toNat = lifetime
  simp only [String.intercalate_cons_cons, String.intercalate_singleton, hfirst, hdate, hexpires,
    hlast, String.append_assoc]

theorem unreserved_digitChar : ∀ n : Fin 16, unreserved (Nat.digitChar n.val) = true := by decide

/-- A digest is left as it is. -/
theorem encode_token_hex (bytes : List UInt8) : encode_token (hex_encode bytes) = hex_encode bytes := by
  apply encode_token_of_unreserved
  intro c hc
  obtain ⟨n, rfl⟩ := mem_hex_encode hc
  exact unreserved_digitChar n

/-- The query of a URL: what stands after its last `?`, since no query has one in it. -/
def query_of (url : String) : List Char := ((rsplit_once '?' url.toList).map Prod.snd).getD []

theorem question_not_mem_piece (p : String × String) : '?' ∉ piece p := by
  rw [piece, List.mem_append, List.mem_cons, not_or, not_or]
  exact ⟨(escaped_encode_token p.1).not_mem rfl rfl (by decide), by decide,
    (escaped_encode_token p.2).not_mem rfl rfl (by decide)⟩

/-- A query has no `?` in it. -/
theorem question_not_mem_canonical_query (pairs : List (String × String)) :
    '?' ∉ (canonical_query_from_pairs pairs).toList := by
  rw [canonical_query_toList]
  refine not_mem_intercalate (by decide) fun cs hcs => ?_
  obtain ⟨p, -, rfl⟩ := List.mem_map.mp hcs
  exact question_not_mem_piece p

theorem piece_ne_nil (p : String × String) : piece p ≠ [] := by
  rw [piece]
  simp

/-- A single pair is a query. -/
theorem parse_query_piece (p : String × String) :
    parse_query (piece p) = some [(utf8 p.1, utf8 p.2)] := by
  rw [parse_query, if_neg (piece_ne_nil p), List.splitOn_eq_singleton (ampersand_not_mem_piece p),
    List.mapM_cons, parse_piece]
  rfl

/-- A query of at least one pair is not empty. -/
theorem canonical_query_ne_nil {pairs : List (String × String)} (hne : pairs ≠ []) :
    (canonical_query_from_pairs pairs).toList ≠ [] := by
  intro hnil
  have hparse := parse_canonical_query pairs
  rw [hnil, parse_query, if_pos rfl, Option.some.injEq, eq_comm, List.map_eq_nil_iff] at hparse
  have hperm := perm_sorted_pairs pairs
  rw [hparse] at hperm
  exact hne hperm.symm.eq_nil

/-- The query of a list request is that of its pairs, with the signature after it. -/
theorem query_of_build_list_url {config : S3Config} {env : Env} {target : ListTarget}
    {token : Option String} {url : String} (h : build_list_url config env target token = .ok url) :
    ∃ now signature, query_of url
      = (canonical_query_from_pairs (list_pairs config now target token)).toList
        ++ '&' :: piece ("X-Amz-Signature", signature) := by
  obtain ⟨now, signature, -, ⟨bytes, hhex⟩, hurl⟩ := build_list_url_eq_ok h
  have hsignature : "&X-Amz-Signature=".toList ++ signature.toList
      = '&' :: piece ("X-Amz-Signature", signature) := by
    have hname : encode_token "X-Amz-Signature" = "X-Amz-Signature" := by decide +kernel
    rw [piece, hname, hhex, encode_token_hex]
    rfl
  have hmark : "?".toList = ['?'] := rfl
  have hno : '?' ∉ (canonical_query_from_pairs (list_pairs config now target token)).toList
      ++ '&' :: piece ("X-Amz-Signature", signature) := by
    rw [List.mem_append, List.mem_cons, not_or, not_or]
    exact ⟨question_not_mem_canonical_query _, by decide, question_not_mem_piece _⟩
  refine ⟨now, signature, ?_⟩
  rw [query_of, hurl, String.toList_append, String.toList_append, String.toList_append,
    List.append_assoc, hsignature, String.toList_append, hmark, List.append_assoc,
    List.append_assoc, List.singleton_append, rsplit_once_append _ hno]
  rfl

/-- It reads back as the pairs, and the signature. -/
theorem parse_query_build_list_url {config : S3Config} {env : Env} {target : ListTarget}
    {token : Option String} {url : String} (h : build_list_url config env target token = .ok url) :
    ∃ now signature, parse_query (query_of url)
      = some (((sorted_pairs (list_pairs config now target token)).map
        fun p => (utf8 p.1, utf8 p.2)) ++ [(utf8 "X-Amz-Signature", utf8 signature)]) := by
  obtain ⟨now, signature, hquery⟩ := query_of_build_list_url h
  have hne : list_pairs config now target token ≠ [] := by
    rw [list_pairs]
    simp
  refine ⟨now, signature, ?_⟩
  rw [hquery, parse_query_append (canonical_query_ne_nil hne) (piece_ne_nil _),
    parse_canonical_query, parse_query_piece]
  rfl

/-- The continuation tokens in the query of a URL, decoded. -/
def continuation_tokens (url : String) : Option (List (List UInt8)) :=
  (parse_query (query_of url)).map fun pairs =>
    (pairs.filter fun p => p.1 = utf8 "continuation-token").map Prod.snd

/-- The token given to `build_list_url` is the one in its URL, and the only one. -/
theorem continuation_tokens_build_list_url {config : S3Config} {env : Env} {target : ListTarget}
    {token : Option String} {url : String} (h : build_list_url config env target token = .ok url) :
    continuation_tokens url = some (token.toList.map utf8) := by
  obtain ⟨now, signature, hparse⟩ := parse_query_build_list_url h
  have hperm := (((perm_sorted_pairs (list_pairs config now target token)).map
    fun p => (utf8 p.1, utf8 p.2)).filter fun p => p.1 = utf8 "continuation-token").map Prod.snd
  -- no other parameter has that name
  have hunsorted : ((((list_pairs config now target token).map fun p => (utf8 p.1, utf8 p.2)).filter
      fun p => p.1 = utf8 "continuation-token").map Prod.snd) = token.toList.map utf8 := by
    by_cases hprefix : target.prefix_text = ""
    · cases token <;> simp [list_pairs, hprefix, utf8_inj]
    · cases token <;> simp [list_pairs, hprefix, utf8_inj]
  have hsignature : ([(utf8 "X-Amz-Signature", utf8 signature)].filter
      fun p => p.1 = utf8 "continuation-token") = [] := by simp [utf8_inj]
  rw [hunsorted] at hperm
  rw [continuation_tokens, hparse, Option.map_some, List.filter_append, hsignature, List.append_nil,
    Option.some.injEq]
  -- at most one token, so sorting cannot move it
  cases token with
  | none => exact hperm.eq_nil
  | some continuation => exact List.perm_singleton.mp hperm

/-- Canonical queries: the two builders agree on the pairs of a presigned request in any order,
a query is the sorted pairs, encoded and joined, it reads back as them, and no two requests
have the same one. -/
theorem canonical_query_spec :
    (∀ (access_key scope amz_date : String) (expires : UInt64) (pairs : List (String × String)),
        pairs.Perm (presign_pairs access_key scope amz_date expires) →
        canonical_query_from_pairs pairs
          = build_canonical_query access_key scope amz_date expires)
      ∧ (∀ pairs : List (String × String), (pairs.map Prod.fst).Nodup →
        ∃ sorted : List (String × String), sorted.Perm pairs
          ∧ (sorted.Pairwise fun l r => utf8 (encode_token l.1) < utf8 (encode_token r.1))
          ∧ (canonical_query_from_pairs pairs).toList
            = ['&'].intercalate (sorted.map fun p =>
              (encode_token p.1).toList ++ '=' :: (encode_token p.2).toList)
          ∧ (∀ p ∈ sorted, Escaped (encode_token p.1).toList ∧ Escaped (encode_token p.2).toList)
          ∧ parse_query (canonical_query_from_pairs pairs).toList
            = some (sorted.map fun p => (utf8 p.1, utf8 p.2)))
      ∧ (∀ (config : S3Config) (now : Timestamps) (target : ListTarget) (token : Option String),
        ((list_pairs config now target token).map Prod.fst).Nodup)
      ∧ ∀ ps qs : List (String × String),
        canonical_query_from_pairs ps = canonical_query_from_pairs qs → ps.Perm qs := by
  refine ⟨?_, ?_, nodup_list_pairs, ?_⟩
  · intro access_key scope amz_date expires pairs hperm
    exact canonical_query_presign hperm
  · intro pairs hnodup
    refine ⟨sorted_pairs pairs, perm_sorted_pairs pairs, ?_, canonical_query_toList pairs, ?_,
      parse_canonical_query pairs⟩
    · exact (sorted_pairs_lt hnodup).imp utf8_encode_token_lt
    · intro p _
      exact ⟨escaped_encode_token p.1, escaped_encode_token p.2⟩
  · intro ps qs h
    exact perm_of_canonical_query_eq h

/-- Two parameters in the wrong order, one of them with a space. -/
theorem canonical_query_of_two :
    ∃ sorted : List (String × String), sorted.Perm [("prefix", "a b"), ("list-type", "2")]
      ∧ parse_query (canonical_query_from_pairs [("prefix", "a b"), ("list-type", "2")]).toList
        = some (sorted.map fun p => (utf8 p.1, utf8 p.2)) := by
  obtain ⟨sorted, hperm, -, -, -, hparse⟩ :=
    canonical_query_spec.2.1 [("prefix", "a b"), ("list-type", "2")] (by decide)
  exact ⟨sorted, hperm, hparse⟩

end Runlet.S3
