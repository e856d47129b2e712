/-
What a usage scan adds up (`do_usage` of `crates/runlet-core/src/s3.rs`), over the pages a
store answers with.

A page is a `Listing`: markup with a `<Size>` element for each entry and a
`<NextContinuationToken>` or none. The code cuts it with `str::split`; the cuts fall where the
elements are, because no text has a `<` in it. `do_usage_totals` follows the scan over all its
pages, and `continuation_token_iff` says which tokens come back to the store as it gave them.
-/
import Runlet.Lib.Markup
import Runlet.S3.Query

set_option autoImplicit false

namespace Runlet.S3

open Effects Text Percent Net Markup Runlet.Json

/-! ## 1. Pages -/

def SIZE : List Char := "Size".toList

def TOKEN : List Char := "NextContinuationToken".toList

/-- A page of a listing. There is one `<Size>` in each `<Contents>` entry and nowhere else. -/
structure Listing where
  nodes : List Node
  plain_size : ∀ node ∈ nodes, node.Plain SIZE
  plain_token : ∀ node ∈ nodes, node.Plain TOKEN

/-- The body of the answer. -/
def Listing.body (l : Listing) : String := String.ofList (render l.nodes)

/-- The sizes of the entries, as they are written. -/
def Listing.sizes (l : Listing) : List (List Char) := texts SIZE l.nodes

/-- The token of the page; an element with nothing but white space in it is none. -/
def Listing.token (l : Listing) : Option String :=
  ((texts TOKEN l.nodes).head?.map fun cs => String.ofList (trim_chars cs)).filter (· ≠ "")

/-- The `u64` a size is, if it is one. -/
def size_value (cs : List Char) : Option ℕ := (parse_u64 (trim_chars cs)).map UInt64.toNat

theorem Listing.toList_body (l : Listing) : l.body.toList = render l.nodes := by
  rw [body, String.toList_ofList]

theorem isName_size : IsName SIZE := ⟨by decide, by decide, by decide⟩

theorem isName_token : IsName TOKEN := ⟨by decide, by decide, by decide⟩

/-- A checked sum is the sum, where it fits. -/
theorem checked_add_eq_some {a b c : UInt64} :
    checked_add a b = some c ↔ c.toNat = a.toNat + b.toNat := by
  rw [checked_add]
  constructor
  · intro h
    split at h
    · rename_i hfits
      rw [← Option.some.inj h, UInt64.toNat_add, Nat.mod_eq_of_lt hfits]
    · cases h
  · intro h
    have hc := c.toNat_lt
    have hfits : a.toNat + b.toNat < 2 ^ 64 := by omega
    rw [if_pos hfits, Option.some.injEq]
    apply UInt64.toNat_inj.mp
    rw [UInt64.toNat_add, Nat.mod_eq_of_lt hfits, h]

/-- What is at most a `u64` is one. -/
theorem exists_toNat_eq {n : ℕ} {c : UInt64} (h : n ≤ c.toNat) : ∃ a : UInt64, a.toNat = n := by
  have hc := c.toNat_lt
  exact ⟨.ofNat n, by rw [UInt64.toNat_ofNat', Nat.mod_eq_of_lt (by omega)]⟩

/-- One element is added iff it is a `u64` and both totals fit. Either check of an overflow ends
the page with its error, and no total wraps. -/
theorem add_size_eq_ok {total total' : UInt64 × UInt64} {segment : List Char} :
    add_size total segment = .ok total'
      ↔ ∃ n, size_value (content SIZE segment) = some n
        ∧ total'.1.toNat = total.1.toNat + n ∧ total'.2.toNat = total.2.toNat + 1 := by
  have hcontent : (split "</Size>".toList segment).headD [] = content SIZE segment := rfl
  rw [add_size, hcontent, size_value]
  cases parse_u64 (trim_chars (content SIZE segment)) with
  | none => simp
  | some value =>
      simp only [Option.map_some, Option.some.injEq, exists_eq_left']
      cases hbytes : checked_add total.1 value with
      | none =>
          refine iff_of_false nofun ?_
          rintro ⟨h, -⟩
          rw [checked_add_eq_some.mpr h] at hbytes
          cases hbytes
      | some bytes =>
          rw [checked_add_eq_some] at hbytes
          cases hobjects : checked_add total.2 1 with
          | none =>
              refine iff_of_false nofun ?_
              rintro ⟨-, h⟩
              rw [checked_add_eq_some.mpr h] at hobjects
              cases hobjects
          | some objects =>
              rw [checked_add_eq_some] at hobjects
              constructor
              · intro h
                rw [← Except.ok.inj h]
                exact ⟨hbytes, hobjects⟩
              · rintro ⟨h, h'⟩
                have hfirst : bytes = total'.1 := UInt64.toNat_inj.mp (hbytes.trans h.symm)
                have hsecond : objects = total'.2 := UInt64.toNat_inj.mp (hobjects.trans h'.symm)
                rw [hfirst, hsecond]

/-- The sum of a page, from any totals on. By induction on the elements: a page is summed iff
every size is read and no total overflows on the way, and as totals only grow, the last is the one
to look at. -/
theorem foldlM_add_size {segments : List (List Char)} {total total' : UInt64 × UInt64} :
    segments.foldlM add_size total = .ok total'
      ↔ ∃ ns, (segments.map (content SIZE)).mapM size_value = some ns
        ∧ total'.1.toNat = total.1.toNat + ns.sum ∧ total'.2.toNat = total.2.toNat + ns.length := by
  induction segments generalizing total with
  | nil =>
      rw [List.foldlM_nil, Result.pure_eq_ok]
      constructor
      · rintro rfl
        exact ⟨[], rfl, rfl, rfl⟩
      · rintro ⟨ns, hns, hbytes, hobjects⟩
        rw [← Option.some.inj hns] at hbytes hobjects
        exact Prod.ext (UInt64.toNat_inj.mp hbytes.symm) (UInt64.toNat_inj.mp hobjects.symm)
  | cons segment segments ih =>
      rw [List.foldlM_cons, Result.bind_eq_ok, List.map_cons, List.mapM_cons]
      constructor
      · rintro ⟨mid, hmid, hrest⟩
        obtain ⟨n, hn, hbytes, hobjects⟩ := add_size_eq_ok.mp hmid
        obtain ⟨ns, hns, hbytes', hobjects'⟩ := ih.mp hrest
        refine ⟨n :: ns, ?_, ?_, ?_⟩
        · rw [hn, hns]
          rfl
        · rw [hbytes', hbytes, List.sum_cons]
          omega
        · rw [hobjects', hobjects, List.length_cons]
          omega
      · rintro ⟨ns, hns, hbytes, hobjects⟩
        obtain ⟨n, hn, hns⟩ := Option.bind_eq_some_iff.mp hns
        obtain ⟨ns', hns', hcons⟩ := Option.bind_eq_some_iff.mp hns
        rw [← Option.some.inj hcons] at hbytes hobjects
        rw [List.sum_cons] at hbytes
        rw [List.length_cons] at hobjects
        -- the totals fit at the end, so they fit here
        obtain ⟨first, hfirst⟩ :=
          exists_toNat_eq (n := total.1.toNat + n) (c := total'.1) (by omega)
        obtain ⟨second, hsecond⟩ :=
          exists_toNat_eq (n := total.2.toNat + 1) (c := total'.2) (by omega)
        refine ⟨(first, second), ?_, ?_⟩
        · exact add_size_eq_ok.mpr ⟨n, hn, hfirst, hsecond⟩
        · refine ih.mpr ⟨ns', hns', ?_, ?_⟩
          · rw [hbytes, hfirst]
            omega
          · rw [hobjects, hsecond]
            omega

/-- `sum_sizes` on a page: it succeeds iff every size is a `u64` and the totals fit, and gives
them. -/
theorem sum_sizes_body {l : Listing} {bytes objects : UInt64} :
    sum_sizes l.body = .ok (bytes, objects)
      ↔ ∃ ns, l.sizes.mapM size_value = some ns ∧ bytes.toNat = ns.sum
        ∧ objects.toNat = ns.length := by
  have hsplit := split_render isName_size l.plain_size
  have hopening : "<Size>".toList = opening SIZE := rfl
  rw [sum_sizes, l.toList_body, hopening, List.drop_one, foldlM_add_size, hsplit]
  simp only [UInt64.toNat_zero, Nat.zero_add]
  rfl

/-- The token is read out of a page as it was written into it. -/
theorem next_token_body (l : Listing) : next_token l.body = l.token := by
  have hsplit := split_render isName_token l.plain_token
  have hfirst : (split (opening TOKEN) (render l.nodes))[1]?
      = (split (opening TOKEN) (render l.nodes)).tail.head? := by
    rw [List.head?_eq_getElem?, List.getElem?_tail]
  have hopening : "<NextContinuationToken>".toList = opening TOKEN := rfl
  rw [Listing.token, ← hsplit, List.head?_map, ← hfirst, next_token, extract_tag, l.toList_body,
    hopening, Option.map_map]
  rfl

/-! ## 2. Scans -/

section Scan

variable (listings : ℕ → Option Listing)

/-- The token that goes with a request: that of the page before. -/
def asked : ℕ → Option String
  | 0 => none
  | i + 1 => (listings i).bind Listing.token

/-- The page is there, and names another. -/
def Continues (i : ℕ) : Prop := ∃ l, listings i = some l ∧ l.token.isSome = true

/-- The page is there, and is the last. -/
def Ends (i : ℕ) : Prop := ∃ l, listings i = some l ∧ l.token = none

/-- The page with this number is the first without a token, counted from `i`. -/
def Through (i n : ℕ) : Prop := i ≤ n ∧ (∀ j, i ≤ j → j < n → Continues listings j) ∧ Ends listings n

/-- The sizes of all entries on the pages from `i` to `n`. -/
def sizes_between (i n : ℕ) : List (List Char) :=
  (List.range' i (n + 1 - i)).flatMap fun j => (listings j).elim [] Listing.sizes

/-- The page is there and every size on it is a `u64`, and so are its totals. -/
def Parsed (i : ℕ) (bytes objects : UInt64) : Prop :=
  ∃ l ns, listings i = some l ∧ l.sizes.mapM size_value = some ns ∧ bytes.toNat = ns.sum
    ∧ objects.toNat = ns.length

variable (config : S3Config) (moments : ℕ → Moment) (target : ListTarget)

/-- The request at this moment is answered with this body. -/
def Fetched (t : Moment) (token : Option String) (body : String) : Prop :=
  ∃ url status, build_list_url config t.env target token = .ok url
    ∧ t.send url = .ok (status, .ok body) ∧ is_success status

/-- The store answers the requests of a scan with these pages; where none is given, the page
is not fetched. -/
def Answers : Prop :=
  ∀ i, (∀ j < i, Continues listings j) →
    match listings i with
    | some l => Fetched config target (moments i) (asked listings i) l.body
    | none => ∀ body, ¬ Fetched config target (moments i) (asked listings i) body

end Scan

/-- A page is what is read of an answer: its status is a success, its body is there, its sizes are
summed, and its token is the one that is asked for next. -/
theorem read_page_eq_ok {answer : Except String (UInt16 × Except String String)} {page : Page} :
    read_page answer = .ok page
      ↔ ∃ status body, answer = .ok (status, .ok body) ∧ is_success status
        ∧ sum_sizes body = .ok (page.bytes, page.objects) ∧ next_token body = page.next := by
  unfold read_page
  constructor
  · intro h
    obtain ⟨⟨status, body⟩, hanswer, h⟩ := Result.bind_eq_ok.mp h
    obtain ⟨text, htext, h⟩ := Result.bind_eq_ok.mp h
    obtain ⟨u, hstatus, h⟩ := Result.bind_eq_ok.mp h
    obtain ⟨⟨bytes, objects⟩, hsum, h⟩ := Result.bind_eq_ok.mp h
    rw [Result.mapError_eq_ok] at hanswer htext
    rw [Result.fail_if_eq_ok, not_not] at hstatus
    have hpage := Except.ok.inj h
    refine ⟨status, text, ?_, hstatus, ?_, ?_⟩
    · rw [hanswer, htext]
    · rw [hsum, ← hpage]
    · rw [← hpage]
  · rintro ⟨status, body, rfl, hstatus, hsum, hnext⟩
    rw [Result.bind_eq_ok]
    refine ⟨(status, .ok body), rfl, ?_⟩
    rw [Result.bind_eq_ok]
    refine ⟨body, rfl, ?_⟩
    rw [Result.bind_eq_ok]
    refine ⟨(), Result.fail_if_eq_ok.mpr (not_not.mpr hstatus), ?_⟩
    rw [Result.bind_eq_ok]
    refine ⟨_, hsum, ?_⟩
    rw [hnext]
    rfl

section Runs

variable {config : S3Config} {moments : ℕ → Moment} {target : ListTarget} {max_ops used : ℕ}
  {listings : ℕ → Option Listing}

/-- A page of the scan that is there is listed with its own totals and its own token. The request
asks for the token of the page before it, and the store answers with the page that stands there.
-/
theorem listed_iff (h : Answers listings config moments target) {i : ℕ}
    (hi : ∀ j < i, Continues listings j) {got : Page} :
    Listed config (moments i) target (asked listings i) got
      ↔ ∃ l, listings i = some l ∧ Parsed listings i got.bytes got.objects ∧ got.next = l.token := by
  have hanswer := h i hi
  constructor
  · rintro ⟨url, hurl, hpage⟩
    obtain ⟨status, body, hsend, hstatus, hsum, hnext⟩ := read_page_eq_ok.mp hpage
    cases hl : listings i with
    | none =>
        rw [hl] at hanswer
        exact absurd ⟨url, status, hurl, hsend, hstatus⟩ (hanswer body)
    | some l =>
        rw [hl] at hanswer
        obtain ⟨url', status', hurl', hsend', -⟩ := hanswer
        -- the request is the same one, so the answer is
        rw [hurl, Except.ok.injEq] at hurl'
        rw [← hurl', hsend, Except.ok.injEq, Prod.mk.injEq, Except.ok.injEq] at hsend'
        rw [hsend'.2] at hsum hnext
        obtain ⟨ns, hns, hbytes, hobjects⟩ := sum_sizes_body.mp hsum
        refine ⟨l, rfl, ⟨l, ns, hl, hns, hbytes, hobjects⟩, ?_⟩
        rw [← hnext, next_token_body]
  · rintro ⟨l, hl, ⟨l', ns, hl', hns, hbytes, hobjects⟩, hnext⟩
    rw [hl, Option.some.injEq] at hl'
    rw [hl] at hanswer
    obtain ⟨url, status, hurl, hsend, hstatus⟩ := hanswer
    refine ⟨url, hurl, read_page_eq_ok.mpr ⟨status, l.body, hsend, hstatus, ?_, ?_⟩⟩
    · exact sum_sizes_body.mpr ⟨ns, hl' ▸ hns, hbytes, hobjects⟩
    · rw [next_token_body, hnext]

theorem fetch_list_page_eq_ok {t : Moment} {token : Option String} {got : Page} :
    (fetch_list_page config t target token).result = .ok got ↔ Listed config t target token got := by
  unfold fetch_list_page
  simp only [ok_bind, ok_lift, result_perform, Listed, true_and, exists_const]

/-- One round that succeeds, and the rounds after it. -/
theorem usage_loop_eq_ok {recorded page : ℕ} {bytes objects : UInt64} {token : Option String}
    {total : UInt64 × UInt64} (hbudget : recorded < max_ops) :
    (usage_loop config max_ops moments target recorded page bytes objects token).result = .ok total
      ↔ ∃ got bytes' objects', Listed config (moments page) target token got
        ∧ bytes'.toNat = bytes.toNat + got.bytes.toNat
        ∧ objects'.toNat = objects.toNat + got.objects.toNat
        ∧ match got.next with
          | none => (bytes', objects') = total
          | some next => (usage_loop config max_ops moments target (recorded + 1) (page + 1) bytes'
              objects' (some next)).result = .ok total := by
  rw [usage_loop, dif_neg (Nat.not_le.mpr hbudget), ok_bind]
  simp only [ok_handle, ok_leave, and_false, exists_false, or_false, fetch_list_page_eq_ok,
    ok_bind, result_perform, true_and, exists_const, ← checked_add_eq_some]
  refine exists_congr fun got => ?_
  cases checked_add bytes got.bytes with
  | none => simp
  | some bytes' =>
      cases checked_add objects got.objects with
      | none => simp
      | some objects' =>
          cases got.next with
          | none => simp
          | some next => simp

/-- The sizes of one page. -/
theorem sizes_between_self {i : ℕ} {l : Listing} (hl : listings i = some l) :
    sizes_between listings i i = l.sizes := by
  have hrange : List.range' i (i + 1 - i) = [i] := by
    rw [Nat.add_sub_cancel_left]
    rfl
  rw [sizes_between, hrange, List.flatMap_singleton, hl]
  rfl

/-- The sizes of a page and of those behind it. -/
theorem sizes_between_succ {i n : ℕ} {l : Listing} (hl : listings i = some l) (hlt : i < n) :
    sizes_between listings i n = l.sizes ++ sizes_between listings (i + 1) n := by
  have hcount : n + 1 - i = (n + 1 - (i + 1)) + 1 := by omega
  rw [sizes_between, sizes_between, hcount, List.range'_succ, List.flatMap_cons, hl]
  rfl

/-- Sizes that are read in a row are read piece by piece. -/
theorem mapM_append_eq_some {cs ds : List (List Char)} {ns : List ℕ} :
    (cs ++ ds).mapM size_value = some ns
      ↔ ∃ ms ks, cs.mapM size_value = some ms ∧ ds.mapM size_value = some ks ∧ ns = ms ++ ks := by
  rw [List.mapM_append]
  constructor
  · intro h
    obtain ⟨ms, hms, h⟩ := Option.bind_eq_some_iff.mp h
    obtain ⟨ks, hks, h⟩ := Option.bind_eq_some_iff.mp h
    exact ⟨ms, ks, hms, hks, (Option.some.inj h).symm⟩
  · rintro ⟨ms, ks, hms, hks, rfl⟩
    rw [hms, hks]
    rfl

/-- The first page without a token is this one, or it is counted from the next. -/
theorem through_iff {i n : ℕ} :
    Through listings i n ↔ n = i ∧ Ends listings i ∨ Continues listings i ∧ Through listings (i + 1) n := by
  constructor
  · rintro ⟨hle, hcontinues, hends⟩
    rcases Nat.eq_or_lt_of_le hle with rfl | hlt
    · exact Or.inl ⟨rfl, hends⟩
    · exact Or.inr ⟨hcontinues i (Nat.le_refl i) hlt, hlt,
        fun j hj => hcontinues j (by omega), hends⟩
  · rintro (⟨rfl, hends⟩ | ⟨hfirst, hle, hcontinues, hends⟩)
    · exact ⟨Nat.le_refl n, fun j hj hj' => absurd hj' (by omega), hends⟩
    · refine ⟨by omega, fun j hj hj' => ?_, hends⟩
      rcases Nat.eq_or_lt_of_le hj with rfl | hlt
      · exact hfirst
      · exact hcontinues j hlt hj'

/-- One more page that goes on. -/
theorem continues_succ {i : ℕ} (hi : ∀ j < i, Continues listings j)
    (hcontinues : Continues listings i) : ∀ j < i + 1, Continues listings j := by
  intro j hj
  rcases Nat.lt_succ_iff_lt_or_eq.mp hj with hlt | rfl
  · exact hi j hlt
  · exact hcontinues

/-- One page of a scan: its totals are added, and the scan ends with it or goes on. This is the
loop's own recursion, with the page in place of the answer. -/
theorem scan_step (h : Answers listings config moments target) {i : ℕ}
    (hi : ∀ j < i, Continues listings j) {bytes objects : UInt64} {total : UInt64 × UInt64}
    (hbudget : used + i < max_ops) :
    (usage_loop config max_ops moments target (used + i) i bytes objects
        (asked listings i)).result = .ok total
      ↔ ∃ l ms bytes' objects', listings i = some l ∧ l.sizes.mapM size_value = some ms
        ∧ bytes'.toNat = bytes.toNat + ms.sum ∧ objects'.toNat = objects.toNat + ms.length
        ∧ (l.token = none ∧ (bytes', objects') = total
          ∨ l.token.isSome = true ∧ (usage_loop config max_ops moments target (used + (i + 1)) (i + 1)
            bytes' objects' (asked listings (i + 1))).result = .ok total) := by
  rw [usage_loop_eq_ok hbudget]
  constructor
  · rintro ⟨got, bytes', objects', hgot, hbytes, hobjects, hrest⟩
    obtain ⟨l, hl, ⟨l', ms, hl', hms, hsum, hlength⟩, hnext⟩ := (listed_iff h hi).mp hgot
    rw [hl, Option.some.injEq] at hl'
    rw [← hl'] at hms
    refine ⟨l, ms, bytes', objects', hl, hms, by rw [hbytes, hsum], by rw [hobjects, hlength], ?_⟩
    rw [asked, hl, Option.bind_some]
    rw [hnext] at hrest
    cases htoken : l.token with
    | none =>
        rw [htoken] at hrest
        exact Or.inl ⟨rfl, hrest⟩
    | some next =>
        rw [htoken] at hrest
        exact Or.inr ⟨rfl, hrest⟩
  · rintro ⟨l, ms, bytes', objects', hl, hms, hbytes, hobjects, hrest⟩
    -- the page's own totals are below the new ones, so they are numbers, too
    obtain ⟨sum, hsum⟩ := exists_toNat_eq (n := ms.sum) (c := bytes') (by omega)
    obtain ⟨length, hlength⟩ := exists_toNat_eq (n := ms.length) (c := objects') (by omega)
    refine ⟨⟨sum, length, l.token⟩, bytes', objects', ?_, ?_, ?_, ?_⟩
    · exact (listed_iff h hi).mpr ⟨l, hl, ⟨l, ms, hl, hms, hsum, hlength⟩, rfl⟩
    · rw [hbytes, hsum]
    · rw [hobjects, hlength]
    · rw [asked, hl, Option.bind_some] at hrest
      rcases hrest with ⟨htoken, htotal⟩ | ⟨htoken, hrest⟩
      · show match l.token with | none => _ | some next => _
        rw [htoken]
        exact htotal
      · obtain ⟨next, hnext⟩ := Option.isSome_iff_exists.mp htoken
        rw [hnext] at hrest
        show match l.token with | none => _ | some next => _
        rw [hnext]
        exact hrest

/-- A scan that goes on from a page succeeds iff the pages up to the first without a token are
there and within the budget, and their totals are numbers; then it gives them. The induction
is on the budget that is left. -/
theorem scan_eq_ok (h : Answers listings config moments target) {i : ℕ}
    (hi : ∀ j < i, Continues listings j) {bytes objects : UInt64} {total : UInt64 × UInt64} :
    (usage_loop config max_ops moments target (used + i) i bytes objects
        (asked listings i)).result = .ok total
      ↔ ∃ n ns, Through listings i n ∧ used + n < max_ops
        ∧ (sizes_between listings i n).mapM size_value = some ns
        ∧ total.1.toNat = bytes.toNat + ns.sum ∧ total.2.toNat = objects.toNat + ns.length := by
  induction hleft : max_ops - (used + i) generalizing i bytes objects with
  | zero =>
      rw [usage_loop, dif_pos (by omega), ok_leave, false_iff]
      rintro ⟨n, ns, hthrough, hbudget, -⟩
      have hle := hthrough.1
      omega
  | succ left ih =>
      rw [scan_step h hi (by omega)]
      constructor
      · rintro ⟨l, ms, bytes', objects', hl, hms, hbytes, hobjects, ⟨htoken, rfl⟩ | ⟨htoken, hrest⟩⟩
        -- the last page
        · refine ⟨i, ms, through_iff.mpr (Or.inl ⟨rfl, l, hl, htoken⟩), by omega, ?_, hbytes,
            hobjects⟩
          rw [sizes_between_self hl, hms]
        · have hcontinues : Continues listings i := ⟨l, hl, htoken⟩
          obtain ⟨n, ks, hthrough, hbudget, hks, hsum, hlength⟩ :=
            (ih (continues_succ hi hcontinues) (by omega)).mp hrest
          refine ⟨n, ms ++ ks, through_iff.mpr (Or.inr ⟨hcontinues, hthrough⟩), hbudget, ?_, ?_, ?_⟩
          · rw [sizes_between_succ hl hthrough.1]
            exact mapM_append_eq_some.mpr ⟨ms, ks, hms, hks, rfl⟩
          · rw [hsum, List.sum_append, hbytes]
            omega
          · rw [hlength, List.length_append, hobjects]
            omega
      · rintro ⟨n, ns, hthrough, hbudget, hns, hsum, hlength⟩
        rcases through_iff.mp hthrough with ⟨rfl, l, hl, htoken⟩ | ⟨⟨l, hl, htoken⟩, hthrough'⟩
        · rw [sizes_between_self hl] at hns
          exact ⟨l, ns, total.1, total.2, hl, hns, hsum, hlength, Or.inl ⟨htoken, rfl⟩⟩
        · rw [sizes_between_succ hl hthrough'.1] at hns
          obtain ⟨ms, ks, hms, hks, rfl⟩ := mapM_append_eq_some.mp hns
          rw [List.sum_append] at hsum
          rw [List.length_append] at hlength
          obtain ⟨bytes', hbytes⟩ :=
            exists_toNat_eq (n := bytes.toNat + ms.sum) (c := total.1) (by omega)
          obtain ⟨objects', hobjects⟩ :=
            exists_toNat_eq (n := objects.toNat + ms.length) (c := total.2) (by omega)
          refine ⟨l, ms, bytes', objects', hl, hms, hbytes, hobjects, Or.inr ⟨htoken, ?_⟩⟩
          refine (ih (continues_succ hi ⟨l, hl, htoken⟩) (by omega)).mpr
            ⟨n, ks, hthrough', hbudget, hks, ?_, ?_⟩
          · rw [hsum, hbytes]
            omega
          · rw [hlength, hobjects]
            omega

/-- The metric of a page. -/
def page_metric (t : Moment) (bytes objects : UInt64) : S3Metric :=
  ⟨"usage", "GET", t.duration_us, 0, some bytes, some objects⟩

/-- The pages from `i` on that are in the trace: each has its own metric, in order, and at most
one request more was sent, for a page that was not fetched or not parsed. -/
def Recorded (moments : ℕ → Moment) (listings : ℕ → Option Listing) (i : ℕ)
    (trace : List StoreEffect) : Prop :=
  (∀ j < (metrics trace).length, ∃ bytes objects, Parsed listings (i + j) bytes objects
      ∧ (metrics trace)[j]? = some (page_metric (moments (i + j)) bytes objects))
    ∧ (requests trace = (metrics trace).length
      ∨ requests trace = (metrics trace).length + 1
        ∧ ∀ bytes objects, ¬ Parsed listings (i + (metrics trace).length) bytes objects)

theorem recorded_nil (i : ℕ) : Recorded moments listings i [] :=
  ⟨fun _ hj => absurd hj (Nat.not_lt_zero _), Or.inl rfl⟩

/-- A page in front of those that are recorded. -/
theorem Recorded.cons {i : ℕ} {url : String} {bytes objects : UInt64} {trace : List StoreEffect}
    (h : Recorded moments listings (i + 1) trace) (hparsed : Parsed listings i bytes objects) :
    Recorded moments listings i
      (.request "GET" url :: .metric (page_metric (moments i) bytes objects) :: trace) := by
  obtain ⟨hmetrics, hrequests⟩ := h
  rw [Recorded, metrics_request, metrics_metric, requests_request, requests_metric,
    List.length_cons]
  constructor
  · intro j hj
    cases j with
    | zero => exact ⟨bytes, objects, hparsed, rfl⟩
    | succ j =>
        have hshift : i + (j + 1) = i + 1 + j := by omega
        rw [hshift, List.getElem?_cons_succ]
        exact hmetrics j (by omega)
  · rcases hrequests with hall | ⟨hone, hlast⟩
    · exact Or.inl (by rw [hall])
    · have hshift : i + ((metrics trace).length + 1) = i + 1 + (metrics trace).length := by omega
      rw [hshift]
      exact Or.inr ⟨by rw [hone], hlast⟩

/-- A request that was sent and not read was for a page that is not there, or not what it
should be. -/
theorem not_parsed_of_unread (h : Answers listings config moments target) {i : ℕ}
    (hi : ∀ j < i, Continues listings j) {url err : String}
    (hurl : build_list_url config (moments i).env target (asked listings i) = .ok url)
    (hpage : read_page ((moments i).send url) = .error err) (bytes objects : UInt64) :
    ¬ Parsed listings i bytes objects := by
  intro hparsed
  obtain ⟨l, -, hl, -⟩ := id hparsed
  have hlisted : Listed config (moments i) target (asked listings i) ⟨bytes, objects, l.token⟩ :=
    (listed_iff h hi).mpr ⟨l, hl, hparsed, rfl⟩
  obtain ⟨url', hurl', hpage'⟩ := hlisted
  rw [hurl, Except.ok.injEq] at hurl'
  rw [← hurl', hpage] at hpage'
  cases hpage'

/-- What a scan sends and records from a page on. The induction is on the budget that is
left. -/
theorem scan_recorded (h : Answers listings config moments target) {i : ℕ}
    (hi : ∀ j < i, Continues listings j) (bytes objects : UInt64) :
    requests (usage_loop config max_ops moments target (used + i) i bytes objects
        (asked listings i)).effects ≤ max_ops - (used + i)
      ∧ Recorded moments listings i (usage_loop config max_ops moments target (used + i) i bytes
        objects (asked listings i)).effects := by
  induction hleft : max_ops - (used + i) generalizing i bytes objects with
  | zero =>
      rw [usage_loop, dif_pos (by omega)]
      exact ⟨Nat.zero_le _, recorded_nil i⟩
  | succ left ih =>
      have hbudget : used + i < max_ops := by omega
      rcases usage_round config (moments i) target (asked listings i) with
        ⟨err, hurl⟩ | ⟨url, err, hurl, hpage⟩ | ⟨got, hgot⟩
      · rw [effects_usage_loop_unsent hbudget hurl]
        exact ⟨Nat.zero_le _, recorded_nil i⟩
      -- sent and not read
      · rw [effects_usage_loop_unanswered hbudget hurl hpage]
        refine ⟨by rw [requests_request, requests_nil]; omega, ?_, Or.inr ⟨rfl, ?_⟩⟩
        · intro j hj
          exact absurd hj (Nat.not_lt_zero j)
        · exact not_parsed_of_unread h hi hurl hpage
      · obtain ⟨l, hl, hparsed, hnext⟩ := (listed_iff h hi).mp hgot
        obtain ⟨url, heffects⟩ := effects_usage_loop bytes objects hbudget hgot
        rw [heffects]
        split
        · rename_i bytes' objects' next _ _ htoken
          rw [hnext] at htoken
          have hcontinues : Continues listings i := ⟨l, hl, by rw [htoken]; rfl⟩
          have hasked : some next = asked listings (i + 1) := by
            rw [asked, hl, Option.bind_some, htoken]
          obtain ⟨hrequests, hrecorded⟩ :=
            ih (continues_succ hi hcontinues) bytes' objects' (by omega)
          rw [hasked, Nat.add_assoc used i 1]
          refine ⟨?_, hrecorded.cons hparsed⟩
          rw [requests_request, requests_metric]
          omega
        · refine ⟨?_, (recorded_nil (i + 1)).cons hparsed⟩
          rw [requests_request, requests_metric, requests_nil]
          omega

/-! ## 3. Totals -/

/-- The JSON of the totals. -/
def usage_json (env : Env) (target : ListTarget) (bytes objects : UInt64) : String :=
  env.to_json (.object [("bytes", .number (.pos_int bytes)), ("objects", .number (.pos_int objects)),
    ("prefix", .string target.prefix_text)])

/-- An answer is what the loop came to, behind a target that was found. -/
theorem do_usage_eq_ok {allow_private : Bool} {payload_json json : String} :
    (do_usage config allow_private max_ops used moments payload_json).result = .ok json
      ↔ ∃ target bytes objects,
        usage_target config allow_private (moments 0) payload_json = .ok target
        ∧ (usage_loop config max_ops moments target used 0 0 0 none).result = .ok (bytes, objects)
        ∧ json = usage_json (moments 0).env target bytes objects := by
  unfold do_usage
  simp only [ok_bind, ok_lift, ok_pure, Prod.exists]
  constructor
  · rintro ⟨target, htarget, bytes, objects, hloop, hjson⟩
    exact ⟨target, bytes, objects, htarget, hloop, hjson.symm⟩
  · rintro ⟨target, bytes, objects, htarget, hloop, hjson⟩
    exact ⟨target, htarget, bytes, objects, hloop, hjson.symm⟩

/-- The scan of `do_usage`, from its first page on. -/
theorem do_usage_scan {target : ListTarget} (h : Answers listings config moments target)
    {bytes objects : UInt64} :
    (usage_loop config max_ops moments target used 0 0 0 none).result = .ok (bytes, objects)
      ↔ ∃ n ns, Through listings 0 n ∧ used + n < max_ops
        ∧ (sizes_between listings 0 n).mapM size_value = some ns
        ∧ bytes.toNat = ns.sum ∧ objects.toNat = ns.length := by
  have hscan := @scan_eq_ok config moments target max_ops used listings h 0
    (fun j hj => absurd hj (Nat.not_lt_zero j)) 0 0 (bytes, objects)
  simp only [UInt64.toNat_zero, Nat.zero_add] at hscan
  exact hscan

end Runs

/-- A usage scan over any sequence of pages: it sends no more requests than the budget has
left, it succeeds iff the pages up to the first without a token are fetched within the budget
and their totals are numbers, then with these totals, and each page that is fetched and parsed
has its own metric. -/
theorem do_usage_totals {config : S3Config} {allow_private : Bool} {max_ops used : ℕ}
    {moments : ℕ → Moment} {payload_json : String} {listings : ℕ → Option Listing}
    (h : ∀ target, usage_target config allow_private (moments 0) payload_json = .ok target →
      Answers listings config moments target) :
    requests (do_usage config allow_private max_ops used moments payload_json).effects
        ≤ max_ops - used
      ∧ (∀ json, (do_usage config allow_private max_ops used moments payload_json).result = .ok json
        ↔ ∃ target n ns bytes objects,
          usage_target config allow_private (moments 0) payload_json = .ok target
          ∧ Through listings 0 n ∧ used + n < max_ops
          ∧ (sizes_between listings 0 n).mapM size_value = some ns
          ∧ bytes.toNat = ns.sum ∧ objects.toNat = ns.length
          ∧ json = usage_json (moments 0).env target bytes objects)
      ∧ Recorded moments listings 0
        (do_usage config allow_private max_ops used moments payload_json).effects := by
  have hnone : ∀ j < 0, Continues listings j := fun j hj => absurd hj (Nat.not_lt_zero j)
  cases htarget : usage_target config allow_private (moments 0) payload_json with
  | error err =>
      rw [effects_do_usage_error htarget]
      refine ⟨Nat.zero_le _, ?_, recorded_nil 0⟩
      intro json
      rw [do_usage_eq_ok]
      refine iff_of_false ?_ ?_
      · rintro ⟨target, -, -, htarget', -⟩
        rw [htarget] at htarget'
        cases htarget'
      · rintro ⟨target, -, -, -, -, htarget', -⟩
        cases htarget'
  | ok target =>
      have hanswers := h target htarget
      rw [effects_do_usage htarget]
      obtain ⟨hrequests, hrecorded⟩ :=
        @scan_recorded config moments target max_ops used listings hanswers 0 hnone 0 0
      refine ⟨hrequests, ?_, hrecorded⟩
      intro json
      rw [do_usage_eq_ok]
      constructor
      · rintro ⟨target', bytes, objects, htarget', hloop, hjson⟩
        rw [htarget, Except.ok.injEq] at htarget'
        subst htarget'
        obtain ⟨n, ns, hscan⟩ := (do_usage_scan hanswers).mp hloop
        obtain ⟨hthrough, hbudget, hns, hsum, hlength⟩ := hscan
        exact ⟨target, n, ns, bytes, objects, rfl, hthrough, hbudget, hns, hsum, hlength, hjson⟩
      · rintro ⟨target', n, ns, bytes, objects, htarget', hthrough, hbudget, hns, hsum, hlength, hjson⟩
        rw [Except.ok.injEq] at htarget'
        subst htarget'
        refine ⟨target, bytes, objects, htarget, ?_, hjson⟩
        exact (do_usage_scan hanswers).mpr ⟨n, ns, hthrough, hbudget, hns, hsum, hlength⟩

/-! ### Two pages -/

def first_page : Listing where
  nodes := [.tag "ListBucketResult".toList, .element TOKEN "t".toList, .tag "Contents".toList,
    .element "Key".toList "a&lt;b".toList, .element SIZE "5".toList, .tag "/Contents".toList,
    .tag "/ListBucketResult".toList]
  plain_size := by decide
  plain_token := by decide

def last_page : Listing where
  nodes := [.tag "ListBucketResult".toList, .tag "Contents".toList,
    .element SIZE "7".toList, .tag "/Contents".toList, .tag "/ListBucketResult".toList]
  plain_size := by decide
  plain_token := by decide

def two_pages (i : ℕ) : Option Listing :=
  if i = 0 then some first_page else if i = 1 then some last_page else none

/-- A store that answers with the two pages. -/
def two_page_moments (i : ℕ) : Moment where
  env := keyed_env "a"
  usage_payload := fun _ => .ok {}
  dns := zone_dns
  build_blocking_client := .ok ()
  send := fun _ => .ok (200, .ok (if i = 0 then first_page.body else last_page.body))
  duration_us := 5

/-- A store that has two pages and answers them: the first request has no token and gets the first
page, the token of that page gets the second, and any other gets nothing. -/
theorem answers_two_pages (target : ListTarget)
    (htarget : usage_target public_store false (two_page_moments 0) "\x7b\x7d" = .ok target) :
    Answers two_pages public_store two_page_moments target := by
  have htarget' : usage_target public_store false (two_page_moments 0) "\x7b\x7d"
      = .ok ⟨"https", "93.184.216.34", ""⟩ := by rfl
  rw [htarget', Except.ok.injEq] at htarget
  subst htarget
  have hurl : ∀ token : Option String, token = none ∨ token = some "t" →
      ∃ url, build_list_url public_store (keyed_env "a") ⟨"https", "93.184.216.34", ""⟩ token
        = .ok url := by
    rintro token (rfl | rfl)
    · exact ⟨_, rfl⟩
    · exact ⟨_, rfl⟩
  intro i hi
  rcases (show i = 0 ∨ i = 1 ∨ 2 ≤ i by omega) with rfl | rfl | hlarge
  · obtain ⟨url, hok⟩ := hurl none (Or.inl rfl)
    exact ⟨url, 200, hok, rfl, by decide⟩
  · have hasked : asked two_pages 1 = some "t" := by decide
    obtain ⟨url, hok⟩ := hurl (some "t") (Or.inr rfl)
    refine ⟨url, 200, ?_, rfl, by decide⟩
    rw [hasked]
    exact hok
  -- there is no third page to ask for
  · obtain ⟨l, hl, htoken⟩ := hi 1 (by omega)
    have hlast : two_pages 1 = some last_page := rfl
    rw [hlast, Option.some.injEq] at hl
    subst hl
    exact absurd htoken (by decide)

/-- Two pages, with a budget of two: the totals are those of both. -/
theorem do_usage_two_pages :
    (do_usage public_store false 2 0 two_page_moments "\x7b\x7d").result
      = .ok (usage_json (keyed_env "a") ⟨"https", "93.184.216.34", ""⟩ 12 2) := by
  refine ((do_usage_totals answers_two_pages).2.1 _).mpr
    ⟨⟨"https", "93.184.216.34", ""⟩, 1, [5, 7], 12, 2, by rfl, ?_, by decide, by decide, rfl, rfl, rfl⟩
  refine ⟨by decide, ?_, last_page, rfl, by decide⟩
  intro j _ hj
  have hzero : j = 0 := by omega
  subst hzero
  exact ⟨first_page, rfl, by decide⟩

/-! ## 4. Tokens -/

/-- What is sent back of a token that the store wrote into a page: the text of its element,
trimmed and with its entities as they are. -/
theorem token_eq_some_iff {l : Listing} {token : String}
    (h : (texts TOKEN l.nodes).head? = some (escape token.toList)) :
    l.token = some token
      ↔ token ≠ "" ∧ (∀ c ∈ token.toList, entity c = none)
        ∧ (∀ c ∈ token.toList.head?, is_whitespace c = false)
        ∧ ∀ c ∈ token.toList.getLast?, is_whitespace c = false := by
  have htext : String.ofList (trim_chars (escape token.toList)) = token
      ↔ trim_chars (escape token.toList) = token.toList := by
    constructor
    · intro heq
      rw [← String.toList_inj, String.toList_ofList] at heq
      exact heq
    · intro heq
      rw [heq, String.ofList_toList]
  rw [Listing.token, h, Option.map_some, Option.filter_eq_some_iff, Option.some.injEq, htext,
    trim_chars_escape_eq_self_iff, trim_chars_eq_self_iff, decide_eq_true_eq]
  constructor
  · rintro ⟨⟨hnone, htrim⟩, hne⟩
    exact ⟨hne, hnone, htrim⟩
  · rintro ⟨hne, hnone, htrim⟩
    exact ⟨⟨hnone, htrim⟩, hne⟩

/-- A token that the store wrote into a page comes back to it as it was iff it is not empty,
has no character that is written as an entity, and no white space at either end. -/
theorem continuation_token_iff {config : S3Config} {env : Env} {target : ListTarget}
    {status : UInt16} {l : Listing} {page : Page} {token url : String}
    (htoken : (texts TOKEN l.nodes).head? = some (escape token.toList))
    (hpage : read_page (.ok (status, .ok l.body)) = .ok page)
    (hurl : build_list_url config env target page.next = .ok url) :
    continuation_tokens url = some [utf8 token]
      ↔ token ≠ "" ∧ (∀ c ∈ token.toList, entity c = none)
        ∧ (∀ c ∈ token.toList.head?, is_whitespace c = false)
        ∧ ∀ c ∈ token.toList.getLast?, is_whitespace c = false := by
  obtain ⟨_, body, hanswer, -, -, hnext⟩ := read_page_eq_ok.mp hpage
  have hbody : l.body = body := by
    rw [Except.ok.injEq, Prod.mk.injEq, Except.ok.injEq] at hanswer
    exact hanswer.2
  rw [← hnext, ← hbody, next_token_body] at hurl
  rw [continuation_tokens_build_list_url hurl, ← token_eq_some_iff htoken, Option.some.injEq]
  cases l.token with
  | none => simp
  | some sent =>
      rw [Option.toList_some, List.map_singleton, List.singleton_inj, Option.some.injEq]
      exact utf8_inj

/-- An answer with a page that has no entries. -/
theorem read_page_of_no_sizes {l : Listing} (h : l.sizes = []) {status : UInt16}
    (hstatus : is_success status) :
    read_page (.ok (status, .ok l.body)) = .ok ⟨0, 0, l.token⟩ := by
  have hsum : sum_sizes l.body = .ok (0, 0) := by
    refine sum_sizes_body.mpr ⟨[], ?_, rfl, rfl⟩
    rw [h]
    rfl
  exact read_page_eq_ok.mpr ⟨status, l.body, rfl, hstatus, hsum, next_token_body l⟩

/-- A page with no entries and this token. -/
def token_page (token : String) : Listing where
  nodes := [.tag "ListBucketResult".toList, .element TOKEN (escape token.toList),
    .tag "/ListBucketResult".toList]
  plain_size := by
    simp only [List.forall_mem_cons, Node.Plain]
    exact ⟨by decide, ⟨isName_token, not_mem_escape _⟩, by decide, by simp⟩
  plain_token := by
    simp only [List.forall_mem_cons, Node.Plain]
    exact ⟨by decide, ⟨isName_token, not_mem_escape _⟩, by decide, by simp⟩

theorem sizes_token_page (token : String) : (token_page token).sizes = [] := by
  have hne : TOKEN ≠ SIZE := by decide
  simp only [Listing.sizes, texts, token_page, List.filterMap_cons, List.filterMap_nil, if_neg hne]

/-- A token of letters comes back. -/
theorem plain_token_comes_back :
    ∃ url, build_list_url public_store (keyed_env "a") ⟨"https", "93.184.216.34", ""⟩ (some "tok")
        = .ok url
      ∧ continuation_tokens url = some [utf8 "tok"] := by
  obtain ⟨url, hurl⟩ : ∃ url, build_list_url public_store (keyed_env "a")
      ⟨"https", "93.184.216.34", ""⟩ (some "tok") = .ok url := ⟨_, rfl⟩
  have htoken : (texts TOKEN (token_page "tok").nodes).head? = some (escape "tok".toList) := rfl
  have hplain : (token_page "tok").token = some "tok" := by decide
  have hpage : read_page (.ok (200, .ok (token_page "tok").body)) = .ok ⟨0, 0, some "tok"⟩ := by
    rw [read_page_of_no_sizes (sizes_token_page _) (by decide), hplain]
  exact ⟨url, hurl, (continuation_token_iff htoken hpage hurl).mpr ((token_eq_some_iff htoken).mp hplain)⟩

/-- A token with an ampersand is sent back with the entity in its place. -/
theorem escaped_token_sent_as_entity :
    ¬ ∀ (token : String) (l : Listing) (page : Page) (url : String),
      (texts TOKEN l.nodes).head? = some (escape token.toList) →
      read_page (.ok (200, .ok l.body)) = .ok page →
      build_list_url public_store (keyed_env "a") ⟨"https", "93.184.216.34", ""⟩ page.next = .ok url →
      continuation_tokens url = some [utf8 token] := by
  intro h
  obtain ⟨url, hurl⟩ : ∃ url, build_list_url public_store (keyed_env "a")
      ⟨"https", "93.184.216.34", ""⟩ (some "a&amp;b") = .ok url := ⟨_, rfl⟩
  have hpage : read_page (.ok (200, .ok (token_page "a&b").body)) = .ok ⟨0, 0, some "a&amp;b"⟩ := by
    have hsent : (token_page "a&b").token = some "a&amp;b" := by decide
    rw [read_page_of_no_sizes (sizes_token_page _) (by decide), hsent]
  have hsame := h "a&b" (token_page "a&b") ⟨0, 0, some "a&amp;b"⟩ url rfl hpage hurl
  rw [continuation_tokens_build_list_url hurl] at hsame
  exact absurd hsame (by decide)

end Runlet.S3
