/-
The cache of compiled modules: `obtain_declared` (`crates/runlet-core/src/engine.rs`)
and `BytecodeCache` (`crates/runlet-core/src/bytecode.rs`).

A handler's source is compiled once and its bytecode kept under the SHA-256 of the
caller's partition and the source. What the cache must not do is show: no module but
the one the source compiles to, and no trace of another partition. The cache is a
memory in the sense of `Memo`, and both come from there, with the one fact that is
this code's own: the preimage of the hash tells the partition from the source.

QuickJS and the hash are an `Engine`. Entries may be evicted at any point. A counter
is a natural number here.
-/
import Runlet.Lib.Memo
import Runlet.Wire

set_option autoImplicit false

namespace Runlet.Bytecode

open Memo (Served Event asked)
open Runlet.Wire (from_le_bytes)

/-! ## The key -/

/-- A byte slice: no allocation is larger than `isize::MAX` bytes. -/
@[ext] structure Slice where
  bytes : List UInt8
  fits : bytes.length < 2 ^ 63
  deriving DecidableEq

def Slice.empty : Slice := ⟨[], by decide⟩

/-- `u64::to_le_bytes`. -/
def u64_to_le_bytes (n : ℕ) : List UInt8 :=
  [UInt8.ofNat n, UInt8.ofNat (n / 256), UInt8.ofNat (n / 65536), UInt8.ofNat (n / 16777216),
    UInt8.ofNat (n / 2 ^ 32), UInt8.ofNat (n / 2 ^ 40), UInt8.ofNat (n / 2 ^ 48),
    UInt8.ofNat (n / 2 ^ 56)]

/-- `u64::try_from(len).unwrap_or(u64::MAX)`. -/
def ns_len (ns : Slice) : ℕ := if ns.bytes.length < 2 ^ 64 then ns.bytes.length else 2 ^ 64 - 1

/-- What `digest` feeds the hasher: the partition's length, the partition, the source. -/
def preimage (ns source : Slice) : List UInt8 :=
  u64_to_le_bytes (ns_len ns) ++ ns.bytes ++ source.bytes

theorem from_u64_to_le_bytes (n : ℕ) (hn : n < 2 ^ 64) : from_le_bytes (u64_to_le_bytes n) = n := by
  simp only [u64_to_le_bytes, from_le_bytes, UInt8.toNat_ofNat']
  omega

theorem ns_len_eq (ns : Slice) : ns_len ns = ns.bytes.length := by
  have hfits := ns.fits
  rw [ns_len, if_pos (by omega)]

/-- The length prefix makes the split unambiguous. -/
theorem preimage_inj {ns ns' source source' : Slice}
    (h : preimage ns source = preimage ns' source') : ns = ns' ∧ source = source' := by
  rw [preimage, preimage, List.append_assoc, List.append_assoc] at h
  -- the eight header bytes, and with them the length of the partition
  obtain ⟨hheader, hrest⟩ := List.append_inj h rfl
  have hlen : ns.bytes.length = ns'.bytes.length := by
    have hfits := ns.fits
    have hfits' := ns'.fits
    rw [ns_len_eq, ns_len_eq] at hheader
    rw [← from_u64_to_le_bytes ns.bytes.length (by omega), hheader,
      from_u64_to_le_bytes ns'.bytes.length (by omega)]
  obtain ⟨hns, hsource⟩ := List.append_inj hrest hlen
  exact ⟨Slice.ext hns, Slice.ext hsource⟩

/-! ## The engine and the cache -/

/-- The hash, and the module operations of QuickJS. An error is the exception a
failed operation leaves pending. -/
structure Engine (M E : Type) where
  sha256 : List UInt8 → List UInt8
  declare : Slice → Except E M
  write : M → Option (List UInt8)
  load : List UInt8 → Except E M

/-- The bytes written for a declared module load as that module. -/
def Engine.LoadsBack {M E : Type} (eng : Engine M E) : Prop :=
  ∀ source m bytes, eng.declare source = .ok m → eng.write m = some bytes →
    eng.load bytes = .ok m

structure BytecodeCache where
  entries : List UInt8 → Option (List UInt8)
  min_source_bytes : ℕ
  hits : ℕ
  misses : ℕ
  stored : ℕ

namespace BytecodeCache

def new (min_source_bytes : ℕ) : BytecodeCache := ⟨fun _ => none, min_source_bytes, 0, 0, 0⟩

def should_store (cache : BytecodeCache) (source_len : ℕ) : Bool :=
  cache.min_source_bytes ≤ source_len

def get (cache : BytecodeCache) (key : List UInt8) : Option (List UInt8) := cache.entries key

def insert (cache : BytecodeCache) (key bytecode : List UInt8) : BytecodeCache :=
  { cache with
    entries := Function.update cache.entries key (some bytecode)
    stored := cache.stored + 1 }

def note_hit (cache : BytecodeCache) : BytecodeCache := { cache with hits := cache.hits + 1 }

def note_miss (cache : BytecodeCache) : BytecodeCache := { cache with misses := cache.misses + 1 }

/-- `moka` drops an entry. -/
def evict (cache : BytecodeCache) (key : List UInt8) : BytecodeCache :=
  { cache with entries := Function.update cache.entries key none }

end BytecodeCache

/-- What `obtain_declared` reads of `ExecParams`, the cache apart. -/
structure Params where
  cache_namespace : Option Slice
  script : Slice

/-- `params.cache_namespace.unwrap_or("")`: the empty partition is the global one. -/
def Params.ns (params : Params) : Slice := params.cache_namespace.getD Slice.empty

/-- The partition and the source of a call. -/
def Params.query (params : Params) : Slice × Slice := (params.ns, params.script)

section Obtain

variable {M E : Type} (eng : Engine M E)

def digest (ns source : Slice) : List UInt8 := eng.sha256 (preimage ns source)

def load_bytecode (bytecode : List UInt8) : Except E M := eng.load bytecode

/-- `obtain_declared` with a cache wired. -/
def obtain_cached (cache : BytecodeCache) (params : Params) : Except E M × BytecodeCache :=
  let key := digest eng params.ns params.script
  match cache.get key with
  | some bytecode => (load_bytecode eng bytecode, cache.note_hit)
  | none =>
    let cache := cache.note_miss
    match eng.declare params.script with
    | .error err => (.error err, cache)
    | .ok declared =>
      if cache.should_store params.script.bytes.length then
        match eng.write declared with
        | some bytes => (.ok declared, cache.insert key bytes)
        | none => (.ok declared, cache)
      else (.ok declared, cache)

def obtain_declared (cache : Option BytecodeCache) (params : Params) :
    Except E M × Option BytecodeCache :=
  match cache with
  | none => (eng.declare params.script, none)
  | some cache =>
    let (result, cache) := obtain_cached eng cache params
    (result, some cache)

/-- Calls and evictions, one after the other. A call is a hit when the lookup finds
an entry, as `note_hit` counts it. -/
def serve : BytecodeCache → List (Event Params (List UInt8)) →
    List (Served (Slice × Slice) (Except E M)) × BytecodeCache
  | cache, [] => ([], cache)
  | cache, .evict key :: events => serve (cache.evict key) events
  | cache, .call params :: events =>
    let hit := (cache.get (digest eng params.ns params.script)).isSome
    let (result, next) := obtain_cached eng cache params
    let (log, last) := serve next events
    (⟨params.query, hit, result⟩ :: log, last)

/-! ## The cache is a memory -/

/-- The scheme the cache memoizes by. -/
def scheme (min_source_bytes : ℕ) :
    Memo.Scheme (Slice × Slice) (List UInt8) (List UInt8) (Except E M) where
  key q := digest eng q.1 q.2
  compute q := eng.declare q.2
  store q result :=
    match result with
    | .ok m => if min_source_bytes ≤ q.2.bytes.length then eng.write m else none
    | .error _ => none
  load := eng.load

end Obtain

def BytecodeCache.memory (cache : BytecodeCache) : Memo.Memory (List UInt8) (List UInt8) :=
  ⟨cache.entries, cache.hits, cache.misses, cache.stored⟩

/-- The event, as the memory sees it. -/
def event_query : Event Params (List UInt8) → Event (Slice × Slice) (List UInt8)
  | .call params => .call params.query
  | .evict key => .evict key

section Refines

variable {M E : Type} (eng : Engine M E)

/-- **A call is a lookup.** Result, hit and the cache afterwards are those of the
memory. -/
theorem obtain_cached_refines (cache : BytecodeCache) (params : Params) :
    (⟨params.query, (cache.get (digest eng params.ns params.script)).isSome,
        (obtain_cached eng cache params).1⟩ : Served (Slice × Slice) (Except E M))
      = (Memo.lookup (scheme eng cache.min_source_bytes) cache.memory params.query).1
    ∧ (obtain_cached eng cache params).2.memory
      = (Memo.lookup (scheme eng cache.min_source_bytes) cache.memory params.query).2
    ∧ (obtain_cached eng cache params).2.min_source_bytes = cache.min_source_bytes := by
  have hget : (cache.memory).entries ((scheme eng cache.min_source_bytes).key params.query)
      = cache.get (digest eng params.ns params.script) := rfl
  cases hentry : cache.get (digest eng params.ns params.script) with
  | some bytecode =>
      have hobtain : obtain_cached eng cache params
          = (load_bytecode eng bytecode, cache.note_hit) := by
        rw [obtain_cached, hentry]
      rw [Memo.lookup_hit (hget.trans hentry), hobtain]
      exact ⟨rfl, rfl, rfl⟩
  | none =>
      -- the four ends of a miss: no module, too small, not writable, stored
      cases hdeclare : eng.declare params.script with
      | error err =>
          have hobtain : obtain_cached eng cache params = (.error err, cache.note_miss) := by
            rw [obtain_cached, hentry, hdeclare]
          have hstore : (scheme eng cache.min_source_bytes).store params.query
              (eng.declare params.script) = none := by
            rw [hdeclare]
            rfl
          rw [Memo.lookup_unstored (hget.trans hentry) hstore, hobtain, ← hdeclare]
          exact ⟨rfl, rfl, rfl⟩
      | ok declared =>
          have hstore : (scheme eng cache.min_source_bytes).store params.query
              (eng.declare params.script) = if cache.min_source_bytes ≤ params.script.bytes.length
                then eng.write declared else none := by
            rw [hdeclare]
            rfl
          by_cases hsize : cache.min_source_bytes ≤ params.script.bytes.length
          · have hshould : cache.note_miss.should_store params.script.bytes.length = true :=
              decide_eq_true hsize
            rw [if_pos hsize] at hstore
            cases hwrite : eng.write declared with
            | none =>
                have hobtain : obtain_cached eng cache params = (.ok declared, cache.note_miss) := by
                  simp only [obtain_cached, hentry, hdeclare, hshould, hwrite, if_true]
                rw [Memo.lookup_unstored (hget.trans hentry) (hstore.trans hwrite), hobtain,
                  ← hdeclare]
                exact ⟨rfl, rfl, rfl⟩
            | some bytes =>
                have hobtain : obtain_cached eng cache params = (.ok declared,
                    cache.note_miss.insert (digest eng params.ns params.script) bytes) := by
                  simp only [obtain_cached, hentry, hdeclare, hshould, hwrite, if_true]
                rw [Memo.lookup_stored (hget.trans hentry) (hstore.trans hwrite), hobtain,
                  ← hdeclare]
                exact ⟨rfl, rfl, rfl⟩
          · have hshould : ¬ cache.note_miss.should_store params.script.bytes.length = true := by
              rw [BytecodeCache.should_store, decide_eq_true_iff]
              exact hsize
            have hobtain : obtain_cached eng cache params = (.ok declared, cache.note_miss) := by
              simp only [obtain_cached, hentry, hdeclare]
              rw [if_neg hshould]
            rw [if_neg hsize] at hstore
            rw [Memo.lookup_unstored (hget.trans hentry) hstore, hobtain, ← hdeclare]
            exact ⟨rfl, rfl, rfl⟩

/-- Whole histories are served as by the memory. By induction on the events: a script that is run
is a query, and an eviction is one there. -/
theorem serve_refines (cache : BytecodeCache) (events : List (Event Params (List UInt8))) :
    (serve eng cache events).1
        = (Memo.serve (scheme eng cache.min_source_bytes) cache.memory (events.map event_query)).1
      ∧ (serve eng cache events).2.memory
        = (Memo.serve (scheme eng cache.min_source_bytes) cache.memory
            (events.map event_query)).2 := by
  induction events generalizing cache with
  | nil => exact ⟨rfl, rfl⟩
  | cons event events ih =>
      cases event with
      | evict key => exact ih (cache.evict key)
      | call params =>
          obtain ⟨hserved, hmemory, hmin⟩ := obtain_cached_refines eng cache params
          obtain ⟨hlog, hlast⟩ := ih (obtain_cached eng cache params).2
          rw [hmin, hmemory] at hlog hlast
          exact ⟨congrArg₂ List.cons hserved hlog, hlast⟩

/-- The queries of a history, as the memory sees them. -/
theorem asked_event_query (events : List (Event Params (List UInt8))) :
    asked (events.map event_query) = (asked events).map Params.query := by
  induction events with
  | nil => rfl
  | cons event events ih =>
      cases event with
      | evict key => exact ih
      | call params =>
          show params.query :: asked (events.map event_query) = _
          rw [ih]
          rfl

/-- Keeping the events of one partition commutes with what the memory sees. -/
theorem filter_event_query (ns : Slice) (events : List (Event Params (List UInt8))) :
    (events.map event_query).filter (Memo.concerns Prod.fst ns)
      = (events.filter (Memo.concerns Params.ns ns)).map event_query := by
  rw [List.filter_map]
  congr 1
  apply List.filter_congr
  intro event _
  cases event with
  | evict key => rfl
  | call params => rfl

end Refines

/-! ## The cache does not show -/

/-- The inputs a history hashes. -/
def hashed (history : List (Event Params (List UInt8))) : Set (List UInt8) :=
  { bytes | ∃ params ∈ asked history, bytes = preimage params.ns params.script }

/-- What the cache owes a history, served from an empty cache. -/
structure Transparent {M E : Type} (eng : Engine M E) (min_source_bytes : ℕ)
    (history : List (Event Params (List UInt8))) : Prop where
  /-- One answer for each call, in order. -/
  answered : (serve eng (BytecodeCache.new min_source_bytes) history).1.map Served.query
    = (asked history).map Params.query
  /-- Each call returns what it would return without a cache. -/
  results : ∀ served ∈ (serve eng (BytecodeCache.new min_source_bytes) history).1,
    served.result = (obtain_declared eng none ⟨some served.query.1, served.query.2⟩).1
  earned : ∀ before served after,
    (serve eng (BytecodeCache.new min_source_bytes) history).1 = before ++ served :: after →
    served.hit = true → ∃ e ∈ before, e.query = served.query ∧ e.hit = false
      ∧ (∃ m, eng.declare e.query.2 = .ok m) ∧ min_source_bytes ≤ e.query.2.bytes.length
  counted : (serve eng (BytecodeCache.new min_source_bytes) history).2.hits
      + (serve eng (BytecodeCache.new min_source_bytes) history).2.misses = (asked history).length
  stored_le : (serve eng (BytecodeCache.new min_source_bytes) history).2.stored
    ≤ (serve eng (BytecodeCache.new min_source_bytes) history).2.misses
  /-- A partition is served as if the others had made no calls. -/
  separated : ∀ ns, (serve eng (BytecodeCache.new min_source_bytes) history).1.filter
      (fun served => served.query.1 = ns)
    = (serve eng (BytecodeCache.new min_source_bytes)
        (history.filter (Memo.concerns Params.ns ns))).1

section Cache

variable {M E : Type} {eng : Engine M E} {history : List (Event Params (List UInt8))}

/-- What is stored is written from a module that compiled, of a source that is large
enough. -/
theorem scheme_store_some {min_source_bytes : ℕ} {q : Slice × Slice} {bytes : List UInt8}
    (hstore : (scheme eng min_source_bytes).store q ((scheme eng min_source_bytes).compute q)
      = some bytes) :
    ∃ m, eng.declare q.2 = .ok m ∧ min_source_bytes ≤ q.2.bytes.length
      ∧ eng.write m = some bytes := by
  have hcompute : (scheme eng min_source_bytes).compute q = eng.declare q.2 := rfl
  rw [hcompute] at hstore
  cases hdeclare : eng.declare q.2 with
  | error err =>
      rw [hdeclare] at hstore
      cases hstore
  | ok m =>
      rw [hdeclare] at hstore
      have hwrite : (if min_source_bytes ≤ q.2.bytes.length then eng.write m else none)
          = some bytes := hstore
      by_cases hsize : min_source_bytes ≤ q.2.bytes.length
      · rw [if_pos hsize] at hwrite
        exact ⟨m, rfl, hsize, hwrite⟩
      · rw [if_neg hsize] at hwrite
        cases hwrite

/-- What the cache stores loads back as what was compiled. -/
theorem scheme_loads_back (hload : eng.LoadsBack) (min_source_bytes : ℕ) :
    (scheme eng min_source_bytes).LoadsBack := by
  intro q bytes hstore
  obtain ⟨m, hdeclare, -, hwrite⟩ := scheme_store_some hstore
  have hcompute : (scheme eng min_source_bytes).compute q = .ok m := hdeclare
  rw [hcompute]
  exact hload q.2 m bytes hdeclare hwrite

/-- A hash that is injective on the preimages gives every query its own key. -/
theorem key_injOn (hsha : Set.InjOn eng.sha256 (hashed history)) (min_source_bytes : ℕ) :
    Set.InjOn (scheme eng min_source_bytes).key { q | q ∈ (asked history).map Params.query } := by
  intro q hq q' hq' hkey
  obtain ⟨params, hmem, rfl⟩ := List.mem_map.mp hq
  obtain ⟨params', hmem', rfl⟩ := List.mem_map.mp hq'
  have hpre := hsha ⟨params, hmem, rfl⟩ ⟨params', hmem', rfl⟩ hkey
  obtain ⟨hns, hscript⟩ := preimage_inj hpre
  exact Prod.ext hns hscript

end Cache

/-- **The bytecode cache is transparent and keeps partitions apart**, for every
history of calls and evictions; and no two pairs of a partition and a source have one
preimage. -/
theorem bytecode_cache_transparent {M E : Type} (eng : Engine M E) (hload : eng.LoadsBack)
    (min_source_bytes : ℕ) (history : List (Event Params (List UInt8)))
    (hsha : Set.InjOn eng.sha256 (hashed history)) :
    Transparent eng min_source_bytes history
      ∧ Function.Injective fun pair : Slice × Slice => preimage pair.1 pair.2 := by
  have hinj := key_injOn hsha min_source_bytes
  have hback := scheme_loads_back hload min_source_bytes
  have hused : ∀ q ∈ asked (history.map event_query),
      q ∈ { q | q ∈ (asked history).map Params.query } := by
    intro q hq
    rw [asked_event_query] at hq
    exact hq
  have hempty : Memo.Earned (scheme eng min_source_bytes) []
      (BytecodeCache.new min_source_bytes).memory := by
    intro k b hb
    cases hb
  obtain ⟨hlog, hlast⟩ := serve_refines eng (BytecodeCache.new min_source_bytes) history
  -- results and hits, from the memory: what is there was earned by an earlier miss
  have hright : ∀ before served after,
      (serve eng (BytecodeCache.new min_source_bytes) history).1 = before ++ served :: after →
      Memo.Right (scheme eng min_source_bytes) ([] ++ before) served := by
    intro before served after hsplit
    rw [hlog] at hsplit
    exact Memo.serve_right hback hinj hused (by simp) hempty hsplit
  obtain ⟨hsum, hstored⟩ := Memo.serve_counts (scheme eng min_source_bytes)
    (BytecodeCache.new min_source_bytes).memory (history.map event_query)
  refine ⟨⟨?_, ?_, ?_, ?_, ?_, ?_⟩, ?_⟩
  · rw [hlog, Memo.serve_asked, asked_event_query]
  · intro served hmem
    obtain ⟨before, after, hsplit⟩ := List.append_of_mem hmem
    exact (hright before served after hsplit).result
  · intro before served after hsplit hhit
    obtain ⟨e, hmem, hquery, hmiss, bytes, hstore⟩ :=
      (hright before served after hsplit).hit_earned hhit
    obtain ⟨m, hdeclare, hsize, -⟩ := scheme_store_some hstore
    exact ⟨e, hmem, hquery, hmiss, ⟨m, hdeclare⟩, hsize⟩
  · rw [asked_event_query, List.length_map] at hsum
    have hmemory := congrArg (fun memory => memory.hits + memory.misses) hlast
    exact hmemory.trans (hsum.trans (Nat.zero_add _))
  · have hmemory := congrArg (fun memory => memory.stored ≤ memory.misses) hlast
    exact hmemory.mpr (hstored (Nat.le_refl 0))
  · intro ns
    obtain ⟨hlog', -⟩ := serve_refines eng (BytecodeCache.new min_source_bytes)
      (history.filter (Memo.concerns Params.ns ns))
    rw [hlog, hlog', ← filter_event_query]
    exact Memo.serve_separated hinj hused fun _ _ _ => rfl
  · rintro ⟨ns, source⟩ ⟨ns', source'⟩ hpre
    obtain ⟨hns, hsource⟩ := preimage_inj hpre
    exact Prod.ext hns hsource

/-! ### Two tenants, one source -/

def source_x : Slice := ⟨[120], by decide⟩
def tenant_a : Slice := ⟨[97], by decide⟩
def tenant_b : Slice := ⟨[98], by decide⟩

/-- The hash on the two preimages of the history, and an engine that compiles the
one source. -/
def two_tenants : Engine String String where
  sha256 bytes :=
    if bytes = preimage tenant_a source_x then
      [196, 154, 49, 180, 119, 77, 205, 81, 136, 73, 222, 45, 194, 17, 186, 111, 149, 18, 184, 227,
        14, 16, 204, 8, 194, 163, 224, 58, 87, 253, 99, 37]
    else if bytes = preimage tenant_b source_x then
      [81, 127, 157, 64, 221, 126, 243, 149, 232, 35, 169, 230, 38, 79, 62, 131, 220, 1, 16, 225,
        173, 146, 234, 181, 147, 143, 133, 175, 26, 212, 140, 42]
    else []
  declare source := if source = source_x then .ok "x" else .error "SyntaxError"
  write m := if m = "x" then some [1] else none
  load bytes := if bytes = [1] then .ok "x" else .error "invalid bytecode"

def shared_history : List (Event Params (List UInt8)) :=
  [.call ⟨some tenant_a, source_x⟩, .call ⟨some tenant_b, source_x⟩,
    .call ⟨some tenant_a, source_x⟩, .call ⟨some tenant_b, source_x⟩]

/-- This engine loads back what it stored. -/
theorem two_tenants_loads_back : two_tenants.LoadsBack := by
  intro source m bytes hdeclare hwrite
  simp only [two_tenants] at hdeclare hwrite ⊢
  split at hwrite
  · rename_i hm
    rw [← Option.some.inj hwrite, hm, if_pos rfl]
  · cases hwrite

/-- The hash of this engine tells its two scripts apart. -/
theorem two_tenants_injOn : Set.InjOn two_tenants.sha256 (hashed shared_history) := by
  have hall : ∀ p ∈ asked shared_history, ∀ p' ∈ asked shared_history,
      two_tenants.sha256 (preimage p.ns p.script) = two_tenants.sha256 (preimage p'.ns p'.script) →
      preimage p.ns p.script = preimage p'.ns p'.script := by decide
  rintro _ ⟨p, hmem, rfl⟩ _ ⟨p', hmem', rfl⟩ hsha
  exact hall p hmem p' hmem' hsha

/-- Two tenants with one script: each compiles it once, and then has it from the cache. -/
theorem bytecode_cache_transparent_tenants :
    two_tenants.LoadsBack ∧ Set.InjOn two_tenants.sha256 (hashed shared_history)
      ∧ Transparent two_tenants 0 shared_history
      ∧ (serve two_tenants (BytecodeCache.new 0) shared_history).1.map Served.hit
        = [false, false, true, true] :=
  ⟨two_tenants_loads_back, two_tenants_injOn,
    (bytecode_cache_transparent two_tenants two_tenants_loads_back 0 shared_history
      two_tenants_injOn).1, by decide⟩

end Runlet.Bytecode
