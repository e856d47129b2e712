/-
`GET /metrics` (`Metrics::render` in `crates/runlet-core/src/metrics.rs`, `metrics` in
`crates/runlet/src/handler.rs`).

The counters are raised by the effects of requests, and the page is put together from format
strings. `scrape_reads_back` is the way from the one to the other: after any effects, the page is
well-formed Prometheus text, and what it says is what the effects were; of requests served in any
order, how many there were and how many executed.
-/
import Runlet.Accounting
import Runlet.Latency
import Runlet.Lib.Exposition

set_option autoImplicit false

namespace Runlet.Scrape

open Exposition Lines Runlet.Handler Runlet.Latency

/-! ## The counters -/

structure Metrics where
  counters : Counter → UInt64 := fun _ => 0
  /-- The execution histogram, and one for each capability. -/
  latency : Handler.Histogram → LatencyHistogram := fun _ => fresh

/-- `u64::try_from(micros).unwrap_or(u64::MAX)`. -/
def clamp (micros : ℕ) : UInt64 := UInt64.ofNat (min micros (2 ^ 64 - 1))

/-- What an effect does to the counters; `fetch_add` wraps. -/
def Metrics.enter (m : Metrics) : Effect → Metrics
  | .count counter =>
    { m with counters := Function.update m.counters counter (m.counters counter + 1) }
  | .observe histogram micros =>
    { m with
      latency := Function.update m.latency histogram
        ((m.latency histogram).observe (clamp micros)) }
  | .record _ | .span _ _ | .ask_quota _ _ | .dial | .open_session _ | .ask_permits _
  | .execute _ => m

/-- The counters after these effects. -/
def metrics (trace : List Effect) : Metrics := trace.foldl Metrics.enter {}

/-- A snapshot of the bytecode cache. -/
structure BytecodeCacheStats where
  entries : UInt64
  hits : UInt64
  misses : UInt64
  stored : UInt64

/-! ## The page as it is written -/

/-- `LatencyHistogram::render`. -/
def render_histogram (hist : LatencyHistogram) (name help : String) : String :=
  "# HELP " ++ name ++ " " ++ help ++ "\n# TYPE " ++ name ++ " histogram\n"
    ++ hist.render_series name "" ++ "\n"

/-- The capabilities in the order they are rendered. -/
def CAPABILITIES : List (String × Handler.Histogram) :=
  [("db", .driver .db), ("mongo", .driver .mongo), ("http", .http), ("mail", .driver .mail),
    ("s3", .s3), ("redis", .driver .redis), ("amq", .driver .amq), ("auth", .driver .auth)]

/-- `CapabilityLatencies::render`. -/
def render_capabilities (latency : Handler.Histogram → LatencyHistogram) : String :=
  let name := "runlet_capability_op_duration_seconds"
  let series := CAPABILITIES.map fun cap =>
    (latency cap.2).render_series name ("capability=\"" ++ cap.1 ++ "\"")
  "# HELP " ++ name ++ " Per-capability operation latency.\n# TYPE " ++ name ++ " histogram\n"
    ++ "\n".intercalate series ++ "\n"

/-- The format string of `Metrics::render`, in front of the histograms. -/
def Metrics.front_lines (self : Metrics) (bulkhead_available bulkhead_total : ℕ)
    (breaker_trips : UInt64) : List String :=
  let load (counter : Counter) : String := toString (self.counters counter).toNat
  [ "# HELP runlet_executions_total Executions by terminal outcome.",
    "# TYPE runlet_executions_total counter",
    "runlet_executions_total\x7boutcome=\"success\"\x7d " ++ load .success,
    "runlet_executions_total\x7boutcome=\"script_error\"\x7d " ++ load .script_error,
    "runlet_executions_total\x7boutcome=\"capability_error\"\x7d " ++ load .capability_error,
    "runlet_executions_total\x7boutcome=\"timeout\"\x7d " ++ load .timeout,
    "runlet_executions_total\x7boutcome=\"memory_limit\"\x7d " ++ load .memory_limit,
    "runlet_executions_total\x7boutcome=\"malformed_response\"\x7d " ++ load .malformed_response,
    "runlet_executions_total\x7boutcome=\"internal_error\"\x7d " ++ load .internal_error,
    "# HELP runlet_rejections_total Requests rejected before execution (bad body, routing, "
      ++ "oversized).",
    "# TYPE runlet_rejections_total counter",
    "runlet_rejections_total " ++ load .rejections,
    "# HELP runlet_overload_total Requests shed by a concurrency limit.",
    "# TYPE runlet_overload_total counter",
    "runlet_overload_total\x7bscope=\"global\"\x7d " ++ load .overload_global,
    "runlet_overload_total\x7bscope=\"partition\"\x7d " ++ load .overload_partition,
    "# HELP runlet_db_breaker_trips_total Cumulative db circuit-breaker open transitions.",
    "# TYPE runlet_db_breaker_trips_total counter",
    "runlet_db_breaker_trips_total " ++ toString breaker_trips.toNat,
    "# HELP runlet_bulkhead_permits_available Free global bulkhead permits right now.",
    "# TYPE runlet_bulkhead_permits_available gauge",
    "runlet_bulkhead_permits_available " ++ toString bulkhead_available,
    "# HELP runlet_bulkhead_permits_total Configured global bulkhead capacity.",
    "# TYPE runlet_bulkhead_permits_total gauge",
    "runlet_bulkhead_permits_total " ++ toString bulkhead_total]

/-- The format string behind them. -/
def cache_lines (cache : BytecodeCacheStats) : List String :=
  [ "# HELP runlet_bytecode_cache_entries Compiled-bytecode cache: resident entries.",
    "# TYPE runlet_bytecode_cache_entries gauge",
    "runlet_bytecode_cache_entries " ++ toString cache.entries.toNat,
    "# HELP runlet_bytecode_cache_events_total Compiled-bytecode cache events by kind "
      ++ "(hit/miss/stored).",
    "# TYPE runlet_bytecode_cache_events_total counter",
    "runlet_bytecode_cache_events_total\x7bevent=\"hit\"\x7d " ++ toString cache.hits.toNat,
    "runlet_bytecode_cache_events_total\x7bevent=\"miss\"\x7d " ++ toString cache.misses.toNat,
    "runlet_bytecode_cache_events_total\x7bevent=\"stored\"\x7d " ++ toString cache.stored.toNat]

/-- `Metrics::render`. -/
def Metrics.render (self : Metrics) (bulkhead_available bulkhead_total : ℕ)
    (breaker_trips : UInt64) (cache : BytecodeCacheStats) : String :=
  unlines (self.front_lines bulkhead_available bulkhead_total breaker_trips)
    ++ render_histogram (self.latency .exec_latency) "runlet_execution_duration_seconds"
      "Execution wall-clock latency."
    ++ render_capabilities self.latency
    ++ unlines (cache_lines cache)

/-- What `metrics` appends when events are on. -/
def dropped_lines (dropped : UInt64) : List String :=
  [ "# HELP runlet_events_dropped_total Usage/audit events dropped due to a full buffer.",
    "# TYPE runlet_events_dropped_total counter",
    "runlet_events_dropped_total " ++ toString dropped.toNat]

/-- The body of `metrics`; the breaker is in the daemon, so the box has no trips to tell. -/
def scrape (m : Metrics) (available bulkhead_capacity : ℕ) (cache : BytecodeCacheStats)
    (event_dropped : Option UInt64) : String :=
  let body := m.render available bulkhead_capacity 0 cache
  match event_dropped with
  | none => body
  | some dropped => body ++ unlines (dropped_lines dropped)

/-! ## The page as it is read -/

/-- A sample with a whole number. -/
def number (name : String) (labels : List (String × String)) (n : ℕ) : Line :=
  .sample ⟨name, labels, toString n⟩

def outcome_page (counts : Counter → ℕ) : List Line :=
  [.help "runlet_executions_total" "Executions by terminal outcome.",
    .type "runlet_executions_total" "counter",
    number "runlet_executions_total" [("outcome", "success")] (counts .success),
    number "runlet_executions_total" [("outcome", "script_error")] (counts .script_error),
    number "runlet_executions_total" [("outcome", "capability_error")] (counts .capability_error),
    number "runlet_executions_total" [("outcome", "timeout")] (counts .timeout),
    number "runlet_executions_total" [("outcome", "memory_limit")] (counts .memory_limit),
    number "runlet_executions_total" [("outcome", "malformed_response")]
      (counts .malformed_response),
    number "runlet_executions_total" [("outcome", "internal_error")] (counts .internal_error),
    .help "runlet_rejections_total"
      "Requests rejected before execution (bad body, routing, oversized).",
    .type "runlet_rejections_total" "counter",
    number "runlet_rejections_total" [] (counts .rejections),
    .help "runlet_overload_total" "Requests shed by a concurrency limit.",
    .type "runlet_overload_total" "counter",
    number "runlet_overload_total" [("scope", "global")] (counts .overload_global),
    number "runlet_overload_total" [("scope", "partition")] (counts .overload_partition)]

def gauge_page (available total trips : ℕ) : List Line :=
  [.help "runlet_db_breaker_trips_total" "Cumulative db circuit-breaker open transitions.",
    .type "runlet_db_breaker_trips_total" "counter",
    number "runlet_db_breaker_trips_total" [] trips,
    .help "runlet_bulkhead_permits_available" "Free global bulkhead permits right now.",
    .type "runlet_bulkhead_permits_available" "gauge",
    number "runlet_bulkhead_permits_available" [] available,
    .help "runlet_bulkhead_permits_total" "Configured global bulkhead capacity.",
    .type "runlet_bulkhead_permits_total" "gauge",
    number "runlet_bulkhead_permits_total" [] total]

/-- The series of the observations. -/
def series_page (name : String) (labels : List (String × String)) (obs : List UInt64) : List Line :=
  List.zipWith (fun le n => number (name ++ "_bucket") (labels ++ [("le", le)]) n)
      LATENCY_BUCKET_LABELS (counts obs)
    ++ [number (name ++ "_bucket") (labels ++ [("le", "+Inf")]) obs.length,
      .sample ⟨name ++ "_sum", labels,
        Digits.render ((obs.map UInt64.toNat).sum % 2 ^ 64 : ℕ) 6⟩,
      number (name ++ "_count") labels obs.length]

def execution_page (obs : List UInt64) : List Line :=
  [.help "runlet_execution_duration_seconds" "Execution wall-clock latency.",
      .type "runlet_execution_duration_seconds" "histogram"]
    ++ series_page "runlet_execution_duration_seconds" [] obs

def capability_page (obs : Handler.Histogram → List UInt64) : List Line :=
  [.help "runlet_capability_op_duration_seconds" "Per-capability operation latency.",
      .type "runlet_capability_op_duration_seconds" "histogram"]
    ++ CAPABILITIES.flatMap fun cap =>
      series_page "runlet_capability_op_duration_seconds" [("capability", cap.1)] (obs cap.2)

def cache_page (cache : BytecodeCacheStats) : List Line :=
  [.help "runlet_bytecode_cache_entries" "Compiled-bytecode cache: resident entries.",
    .type "runlet_bytecode_cache_entries" "gauge",
    number "runlet_bytecode_cache_entries" [] cache.entries.toNat,
    .help "runlet_bytecode_cache_events_total"
      "Compiled-bytecode cache events by kind (hit/miss/stored).",
    .type "runlet_bytecode_cache_events_total" "counter",
    number "runlet_bytecode_cache_events_total" [("event", "hit")] cache.hits.toNat,
    number "runlet_bytecode_cache_events_total" [("event", "miss")] cache.misses.toNat,
    number "runlet_bytecode_cache_events_total" [("event", "stored")] cache.stored.toNat]

def dropped_page : Option UInt64 → List Line
  | none => []
  | some dropped =>
    [.help "runlet_events_dropped_total" "Usage/audit events dropped due to a full buffer.",
      .type "runlet_events_dropped_total" "counter",
      number "runlet_events_dropped_total" [] dropped.toNat]

/-- What a scrape says. -/
def page (counts : Counter → ℕ) (obs : Handler.Histogram → List UInt64) (available total : ℕ)
    (cache : BytecodeCacheStats) (dropped : Option UInt64) : List Line :=
  outcome_page counts ++ gauge_page available total 0 ++ execution_page (obs .exec_latency)
    ++ capability_page obs ++ cache_page cache ++ dropped_page dropped

/-! ## What is written is what is read -/

/-- Lines put together with breaks between them, and one behind the last. -/
theorem intercalate_newline {ls : List String} (h : ls ≠ []) :
    "\n".intercalate ls ++ "\n" = unlines ls := by
  induction ls with
  | nil => exact absurd rfl h
  | cons line rest ih =>
      cases rest with
      | nil =>
          rw [unlines_cons, unlines_nil, String.append_empty]
          rfl
      | cons line' rest =>
          rw [unlines_cons, ← ih (by simp), String.intercalate_cons_cons]
          simp only [String.append_assoc]

/-- The label of the bucket is written behind the others. -/
theorem bucket_labels_eq (labels : List (String × String)) (le : String) :
    bucket_labels (write_labels labels) le = label_set (labels ++ [("le", le)]) := by
  by_cases h : labels = []
  · rw [h]
    have hempty : write_labels [] = "" := rfl
    rw [bucket_labels, if_pos hempty, List.nil_append, label_set_of_ne (by simp)]
    simp only [write_labels, write_label, String.append_assoc]
    rfl
  · rw [bucket_labels, if_neg (write_labels_ne_empty h), label_set_of_ne (by simp),
      write_labels_append h, write_label]
    simp only [String.append_assoc]
    rfl

/-- The labels of a sample, with their braces if there are any. -/
theorem suffix_eq (labels : List (String × String)) :
    suffix (write_labels labels) = label_set labels := by
  by_cases h : labels = []
  · rw [h]
    rfl
  · rw [suffix, if_neg (write_labels_ne_empty h), label_set_of_ne h]

theorem bucket_line_eq (name : String) (labels : List (String × String)) (le : String) (n : ℕ) :
    bucket_line name (write_labels labels) le n
      = (number (name ++ "_bucket") (labels ++ [("le", le)]) n).write := by
  rw [bucket_line, bucket_labels_eq, number, Line.write]

/-- A series, and the newline behind it. -/
theorem series_eq_write (name : String) (labels : List (String × String)) (obs : List UInt64) :
    Latency.series name (write_labels labels) (counts obs) obs.length
        ((obs.map UInt64.toNat).sum % 2 ^ 64) ++ "\n"
      = Exposition.write (series_page name labels obs) := by
  rw [Latency.series, intercalate_newline (by simp), Exposition.write, series_page]
  congr 1
  have hbuckets : List.zipWith (bucket_line name (write_labels labels)) LATENCY_BUCKET_LABELS
        (counts obs)
      = (List.zipWith (fun le n => number (name ++ "_bucket") (labels ++ [("le", le)]) n)
          LATENCY_BUCKET_LABELS (counts obs)).map Line.write := by
    rw [List.map_zipWith]
    exact congrArg (fun f => List.zipWith f LATENCY_BUCKET_LABELS (counts obs))
      (funext fun le => funext fun n => bucket_line_eq name labels le n)
  rw [hbuckets, List.map_append, List.map_cons, List.map_cons, List.map_cons, List.map_nil,
    ← bucket_line_eq, suffix_eq, List.append_assoc, List.append_assoc]
  rfl

/-- The text of a series is that of its page. -/
theorem render_series_write {obs : List UInt64} (h : obs.length < 2 ^ 64) (name : String)
    (labels : List (String × String)) :
    (observed obs).render_series name (write_labels labels) ++ "\n"
      = Exposition.write (series_page name labels obs) := by
  rw [render_series_eq h, series_eq_write]

/-- The counters are these, and the histograms have seen these observations. -/
structure Shows (m : Metrics) (counts : Counter → ℕ) (obs : Handler.Histogram → List UInt64) :
    Prop where
  counters : ∀ c, (m.counters c).toNat = counts c
  latency : ∀ h, m.latency h = observed (obs h)
  few : ∀ h, (obs h).length < 2 ^ 64

/-- The two comment lines of a histogram family. -/
theorem header_write (name help : String) :
    "# HELP " ++ name ++ " " ++ help ++ "\n# TYPE " ++ name ++ " histogram\n"
      = Exposition.write [.help name help, .type name "histogram"] := by
  apply String.toList_inj.mp
  simp [Exposition.write, unlines_cons, Line.write]

section Render

variable {m : Metrics} {counts : Counter → ℕ} {obs : Handler.Histogram → List UInt64}
  (hshows : Shows m counts obs)

include hshows

/-- The text of the execution histogram is that of its page. -/
theorem render_execution_write :
    render_histogram (m.latency .exec_latency) "runlet_execution_duration_seconds"
        "Execution wall-clock latency."
      = Exposition.write (execution_page (obs .exec_latency)) := by
  have hseries := render_series_write (hshows.few .exec_latency)
    "runlet_execution_duration_seconds" []
  delta render_histogram
  rw [execution_page, write_append, ← hseries, hshows.latency, header_write, String.append_assoc]
  rfl

/-- So is that of the capability histograms, one series behind the other under one heading. By
induction on the capabilities, each with its own label. -/
theorem render_capabilities_write :
    render_capabilities m.latency = Exposition.write (capability_page obs) := by
  have hlabels : ∀ cap : String,
      "capability=\"" ++ cap ++ "\"" = write_labels [("capability", cap)] := by
    intro cap
    simp only [write_labels, write_label, String.append_assoc]
    rfl
  have hseries : ∀ caps : List (String × Handler.Histogram),
      unlines (caps.map fun cap => (m.latency cap.2).render_series
          "runlet_capability_op_duration_seconds" ("capability=\"" ++ cap.1 ++ "\""))
        = Exposition.write (caps.flatMap fun cap =>
          series_page "runlet_capability_op_duration_seconds" [("capability", cap.1)]
            (obs cap.2)) := by
    intro caps
    induction caps with
    | nil => rfl
    | cons cap caps ih =>
        rw [List.map_cons, unlines_cons, ih, List.flatMap_cons, write_append, hlabels,
          hshows.latency, render_series_write (hshows.few cap.2)]
  have hheader := header_write "runlet_capability_op_duration_seconds"
    "Per-capability operation latency."
  have hhelp : " Per-capability operation latency.\n# TYPE "
      = " " ++ ("Per-capability operation latency." ++ "\n# TYPE ") := by simp
  delta render_capabilities
  rw [capability_page, write_append, ← hseries, ← hheader,
    ← intercalate_newline (by simp [CAPABILITIES]), hhelp]
  simp only [String.append_assoc]

/-- The lines of the counters and gauges are those of their pages. -/
theorem front_lines_eq (available total : ℕ) (trips : UInt64) :
    m.front_lines available total trips
      = (outcome_page counts ++ gauge_page available total trips.toNat).map Line.write := by
  simp [Metrics.front_lines, outcome_page, gauge_page, number, Line.write, label_set, write_labels,
    write_label, hshows.counters]

omit hshows in
theorem cache_lines_eq (cache : BytecodeCacheStats) :
    cache_lines cache = (cache_page cache).map Line.write := by
  simp [cache_lines, cache_page, number, Line.write, label_set, write_labels, write_label]

/-- **The text is that of the page**, group by group. -/
theorem render_write (available total : ℕ) (trips : UInt64) (cache : BytecodeCacheStats) :
    m.render available total trips cache
      = Exposition.write (outcome_page counts ++ gauge_page available total trips.toNat
          ++ execution_page (obs .exec_latency) ++ capability_page obs ++ cache_page cache) := by
  rw [write_append, write_append, write_append, Metrics.render, front_lines_eq hshows,
    cache_lines_eq, render_execution_write hshows, render_capabilities_write hshows]
  rfl

end Render

/-! ## Every line can be read -/

/-- Labels as they are written here. -/
def plain_labels (labels : List (String × String)) : Bool :=
  labels.all fun label => label.1.toList.all is_name_char && label.2.toList.all is_value_char

/-- A sample whose parts have none of the characters that separate them is read as it was written.
-/
theorem plain_sample {name value : String} {labels : List (String × String)} (hname : IsName name)
    (hlabels : plain_labels labels = true)
    (hvalue : value ≠ "" ∧ ' ' ∉ value.toList ∧ OneLine value) :
    (Line.sample ⟨name, labels, value⟩).Plain where
  name := hname
  labels := by
    intro label hlabel
    have hplain := List.all_eq_true.mp hlabels label hlabel
    rw [Bool.and_eq_true] at hplain
    exact hplain
  value := hvalue

/-- A sample with a natural number for its value. -/
theorem plain_number {name : String} {labels : List (String × String)} (hname : IsName name)
    (hlabels : plain_labels labels = true) (n : ℕ) : (number name labels n).Plain := by
  apply plain_sample hname hlabels
  refine ⟨?_, ?_, ?_⟩
  · intro hempty
    have hlist := congrArg String.toList hempty
    rw [Digits.toList_toString] at hlist
    exact absurd hlist (List.ne_nil_of_length_pos Nat.length_toDigits_pos)
  · intro hmem
    exact absurd (Digits.isDigit_of_mem_toString hmem) (by decide)
  · intro hmem
    exact absurd (Digits.isDigit_of_mem_toString hmem) (by decide)

/-- The counters. -/
theorem plain_outcome_page (counts : Counter → ℕ) : ∀ line ∈ outcome_page counts, line.Plain := by
  simp only [outcome_page, List.forall_mem_cons]
  and_intros
  all_goals first
    | exact plain_number (by rfl) (by rfl) _
    | rfl
    | decide
    | exact List.forall_mem_nil _

/-- The gauges. -/
theorem plain_gauge_page (available total trips : ℕ) :
    ∀ line ∈ gauge_page available total trips, line.Plain := by
  simp only [gauge_page, List.forall_mem_cons]
  and_intros
  all_goals first
    | exact plain_number (by rfl) (by rfl) _
    | rfl
    | decide
    | exact List.forall_mem_nil _

/-- The cache. -/
theorem plain_cache_page (cache : BytecodeCacheStats) :
    ∀ line ∈ cache_page cache, line.Plain := by
  simp only [cache_page, List.forall_mem_cons]
  and_intros
  all_goals first
    | exact plain_number (by rfl) (by rfl) _
    | rfl
    | decide
    | exact List.forall_mem_nil _

/-- The dropped events. -/
theorem plain_dropped_page (dropped : Option UInt64) :
    ∀ line ∈ dropped_page dropped, line.Plain := by
  cases dropped with
  | none => exact List.forall_mem_nil _
  | some dropped =>
      simp only [dropped_page, List.forall_mem_cons]
      exact ⟨⟨rfl, by decide⟩, ⟨rfl, by decide⟩, plain_number (by rfl) (by rfl) _,
        List.forall_mem_nil _⟩

/-- A number that is written with a point has digits and the point in it. -/
theorem not_mem_render (n scale : ℕ) {c : Char} (hdigit : c.isDigit = false) (hpoint : c ≠ '.') :
    c ∉ (Digits.render n (scale + 1)).toList := by
  have hdigits : ∀ m k, c ∉ Digits.padded m k := by
    intro m k hmem
    rw [Digits.padded_isDigit hmem] at hdigit
    cases hdigit
  simp only [Digits.render_split, String.toList_append, String.toList_ofList, List.mem_append,
    Digits.toList_toString, ← Digits.padded_zero]
  rintro ((hmem | hmem) | hmem)
  · exact hdigits _ _ hmem
  · exact hpoint (List.mem_singleton.mp hmem)
  · exact hdigits _ _ hmem

theorem plain_append {labels labels' : List (String × String)} (h : plain_labels labels = true)
    (h' : plain_labels labels' = true) : plain_labels (labels ++ labels') = true := by
  rw [plain_labels, List.all_append, ← plain_labels, ← plain_labels, h, h']
  rfl

/-- A series: its buckets, its sum and its count. All its names are names and all its labels
plain, so each of its lines reads back. -/
theorem plain_series_page {name : String} {labels : List (String × String)} (hname : IsName name)
    (hlabels : plain_labels labels = true) (obs : List UInt64) :
    ∀ line ∈ series_page name labels obs, line.Plain := by
  have hnamed : ∀ ending, IsName ending → IsName (name ++ ending) := by
    intro ending hending
    rw [IsName, String.toList_append, List.all_append, hname, hending]
    rfl
  have hbound : ∀ le ∈ LATENCY_BUCKET_LABELS, plain_labels [("le", le)] = true := by
    simp only [LATENCY_BUCKET_LABELS, List.forall_mem_cons]
    and_intros
    all_goals first
      | rfl
      | exact List.forall_mem_nil _
  rw [series_page, List.forall_mem_append]
  constructor
  · intro line hline
    rw [← List.map_uncurry_zip_eq_zipWith] at hline
    obtain ⟨⟨le, n⟩, hmem, rfl⟩ := List.mem_map.mp hline
    exact plain_number (hnamed "_bucket" rfl)
      (plain_append hlabels (hbound le (List.of_mem_zip hmem).1)) n
  · simp only [List.forall_mem_cons]
    refine ⟨plain_number (hnamed "_bucket" rfl) (plain_append hlabels rfl) _,
      plain_sample (hnamed "_sum" rfl) hlabels ⟨?_, ?_, ?_⟩,
      plain_number (hnamed "_count" rfl) hlabels _, List.forall_mem_nil _⟩
    · intro hempty
      have hpoint := (Digits.point_mem_render
        ((obs.map UInt64.toNat).sum % 2 ^ 64 : ℕ) 6).mpr (by decide)
      rw [hempty] at hpoint
      exact List.not_mem_nil hpoint
    · exact not_mem_render _ 5 rfl (by decide)
    · exact not_mem_render _ 5 rfl (by decide)

theorem plain_execution_page (obs : List UInt64) : ∀ line ∈ execution_page obs, line.Plain := by
  simp only [execution_page, List.forall_mem_append, List.forall_mem_cons]
  exact ⟨⟨⟨rfl, by decide⟩, ⟨rfl, by decide⟩, List.forall_mem_nil _⟩,
    plain_series_page (by rfl) rfl _⟩

/-- The series of the capabilities, one for each label. -/
theorem plain_capability_page (obs : Handler.Histogram → List UInt64) :
    ∀ line ∈ capability_page obs, line.Plain := by
  have hcap : ∀ cap ∈ CAPABILITIES, plain_labels [("capability", cap.1)] = true := by
    simp only [CAPABILITIES, List.forall_mem_cons]
    and_intros
    all_goals first
      | rfl
      | exact List.forall_mem_nil _
  simp only [capability_page, List.forall_mem_append, List.forall_mem_cons]
  refine ⟨⟨⟨rfl, by decide⟩, ⟨rfl, by decide⟩, List.forall_mem_nil _⟩, ?_⟩
  intro line hline
  obtain ⟨cap, hmem, hline⟩ := List.mem_flatMap.mp hline
  exact plain_series_page (by rfl) (hcap cap hmem) _ line hline

/-- **Every line of a page can be read back**, whatever the numbers on it. -/
theorem plain_page (counts : Counter → ℕ) (obs : Handler.Histogram → List UInt64)
    (available total : ℕ) (cache : BytecodeCacheStats) (dropped : Option UInt64) :
    ∀ line ∈ page counts obs available total cache dropped, line.Plain := by
  simp only [page, List.forall_mem_append]
  exact ⟨⟨⟨⟨⟨plain_outcome_page counts, plain_gauge_page available total 0⟩,
    plain_execution_page _⟩, plain_capability_page obs⟩, plain_cache_page cache⟩,
    plain_dropped_page dropped⟩

/-! ## No sample twice -/

/-- What tells the samples of a series from each other. -/
def series_keys (name : String) (labels : List (String × String)) :
    List (String × List (String × String)) :=
  LATENCY_BUCKET_LABELS.map (fun le => (name ++ "_bucket", labels ++ [("le", le)]))
    ++ [(name ++ "_bucket", labels ++ [("le", "+Inf")]), (name ++ "_sum", labels),
      (name ++ "_count", labels)]

theorem series_series_page (name : String) (labels : List (String × String)) (obs : List UInt64) :
    (series_page name labels obs).filterMap Line.series = series_keys name labels := rfl

/-- The samples of a series have the family's names, and its labels in front. -/
theorem mem_series_keys {name : String} {labels : List (String × String)}
    {key : String × List (String × String)} (h : key ∈ series_keys name labels) :
    key.1 ∈ Family.names (name, "histogram") ∧ labels <+: key.2 := by
  rw [series_keys, List.mem_append] at h
  rcases h with h | h
  · obtain ⟨le, -, rfl⟩ := List.mem_map.mp h
    exact ⟨List.mem_cons_self, List.prefix_append _ _⟩
  · simp only [List.mem_cons, List.not_mem_nil, or_false] at h
    rcases h with rfl | rfl | rfl
    · exact ⟨List.mem_cons_self, List.prefix_append _ _⟩
    · exact ⟨List.mem_cons_of_mem _ List.mem_cons_self, List.prefix_rfl⟩
    · exact ⟨List.mem_cons_of_mem _ (List.mem_cons_of_mem _ List.mem_cons_self), List.prefix_rfl⟩

/-- No sample of a series comes twice: the buckets differ in their bound, and the rest in the
name. -/
theorem nodup_series_keys (name : String) (labels : List (String × String)) :
    (series_keys name labels).Nodup := by
  have hbounds : (LATENCY_BUCKET_LABELS ++ ["+Inf"]).Nodup := by decide +kernel
  have hinj : ∀ le le' : String,
      ((name ++ "_bucket", labels ++ [("le", le)]) : String × List (String × String))
        = (name ++ "_bucket", labels ++ [("le", le')]) → le = le' := by
    intro le le' h
    have hlast := List.append_cancel_left (Prod.mk.inj h).2
    exact (Prod.mk.inj (List.cons.inj hlast).1).2
  have hbuckets : ((LATENCY_BUCKET_LABELS ++ ["+Inf"]).map
      fun le => (name ++ "_bucket", labels ++ [("le", le)])).Nodup :=
    hbounds.map fun le le' => hinj le le'
  have hends : ∀ ending ending' : String, ending ≠ ending' → name ++ ending ≠ name ++ ending' := by
    intro ending ending' hne heq
    exact hne ((String.append_right_inj name).mp heq)
  have hsplit : series_keys name labels
      = (LATENCY_BUCKET_LABELS ++ ["+Inf"]).map (fun le => (name ++ "_bucket", labels ++ [("le", le)]))
        ++ [(name ++ "_sum", labels), (name ++ "_count", labels)] := by
    rw [series_keys, List.map_append, List.append_assoc]
    rfl
  rw [hsplit, List.nodup_append]
  refine ⟨hbuckets, ?_, ?_⟩
  · rw [List.nodup_cons, List.mem_singleton]
    refine ⟨fun h => hends "_sum" "_count" (by decide) (Prod.mk.inj h).1, List.nodup_singleton _⟩
  · intro key hkey key' hkey'
    obtain ⟨le, -, rfl⟩ := List.mem_map.mp hkey
    simp only [List.mem_cons, List.not_mem_nil, or_false] at hkey'
    rcases hkey' with rfl | rfl
    · exact fun h => hends "_bucket" "_sum" (by decide) (Prod.mk.inj h).1
    · exact fun h => hends "_bucket" "_count" (by decide) (Prod.mk.inj h).1

/-- The keys of the capabilities' series. -/
def capability_keys : List (String × List (String × String)) :=
  CAPABILITIES.flatMap fun cap =>
    series_keys "runlet_capability_op_duration_seconds" [("capability", cap.1)]

/-- The series of the capabilities differ in their label. -/
theorem nodup_capability_keys : capability_keys.Nodup := by
  have hcaps : (CAPABILITIES.map Prod.fst).Nodup := by decide
  refine List.nodup_flatMap.mpr ⟨fun cap _ => nodup_series_keys _ _, ?_⟩
  refine (List.pairwise_map.mp hcaps).imp ?_
  intro cap cap' hne key hkey hkey'
  -- the label says whose series it is
  obtain ⟨rest, hrest⟩ := (mem_series_keys hkey).2
  obtain ⟨rest', hrest'⟩ := (mem_series_keys hkey').2
  rw [← hrest, List.singleton_append, List.singleton_append, List.cons.injEq] at hrest'
  exact hne (Prod.mk.inj hrest'.1).2.symm

/-- The keys of a page, in five groups. -/
def page_keys (dropped : Option UInt64) : List (List (String × List (String × String))) :=
  [(outcome_page fun _ => 0).filterMap Line.series ++ (gauge_page 0 0 0).filterMap Line.series,
    series_keys "runlet_execution_duration_seconds" [], capability_keys,
    (cache_page ⟨0, 0, 0, 0⟩).filterMap Line.series, (dropped_page dropped).filterMap Line.series]

/-- The names in each group. -/
def group_names : List (List String) :=
  [["runlet_executions_total", "runlet_rejections_total", "runlet_overload_total",
      "runlet_db_breaker_trips_total", "runlet_bulkhead_permits_available",
      "runlet_bulkhead_permits_total"],
    Family.names ("runlet_execution_duration_seconds", "histogram"),
    Family.names ("runlet_capability_op_duration_seconds", "histogram"),
    ["runlet_bytecode_cache_entries", "runlet_bytecode_cache_events_total"],
    ["runlet_events_dropped_total"]]

/-- The samples under a heading have names of the family. -/
theorem page_keys_named (dropped : Option UInt64) :
    List.Forall₂ (fun keys names => ∀ key ∈ keys, key.1 ∈ names) (page_keys dropped) group_names := by
  refine .cons ?_ (.cons ?_ (.cons ?_ (.cons ?_ (.cons ?_ .nil))))
  · decide
  · exact fun key hkey => (mem_series_keys hkey).1
  · intro key hkey
    obtain ⟨cap, -, hkey⟩ := List.mem_flatMap.mp hkey
    exact (mem_series_keys hkey).1
  · decide
  · cases dropped with
    | none => nofun
    | some dropped => exact List.forall_mem_singleton.mpr List.mem_cons_self

/-- Groups of keys with disjoint names, each without a key twice. A key's first part tells its
group, so no key is in two of them. -/
theorem nodup_flatten_of_named {α β : Type} {groups : List (List (α × β))} {names : List (List α)}
    (hnamed : List.Forall₂ (fun keys names => ∀ key ∈ keys, key.1 ∈ names) groups names)
    (hnodup : ∀ keys ∈ groups, keys.Nodup)
    (hnames : names.Pairwise fun ns ns' => ∀ n ∈ ns, n ∉ ns') :
    groups.flatten.Nodup := by
  refine List.nodup_flatten.mpr ⟨hnodup, ?_⟩
  induction hnamed with
  | nil => exact .nil
  | @cons keys ns groups names hkeys hrest ih =>
      rw [List.pairwise_cons] at hnames ⊢
      refine ⟨?_, ih (fun keys hmem => hnodup keys (List.mem_cons_of_mem _ hmem)) hnames.2⟩
      intro keys' hkeys' key hkey hkey'
      obtain ⟨ns', hns', hnamed'⟩ : ∃ ns' ∈ names, ∀ key ∈ keys', key.1 ∈ ns' :=
        (List.forall₂_iff_get.mp hrest) |> fun ⟨hlen, hget⟩ => by
          obtain ⟨i, hi, rfl⟩ := List.getElem_of_mem hkeys'
          exact ⟨names.get ⟨i, hlen ▸ hi⟩, List.get_mem _ _, hget i hi (hlen ▸ hi)⟩
      exact hnames.1 ns' hns' key.1 (hkeys key hkey) (hnamed' key hkey')

/-- No sample of a page comes twice: under different headings the names differ. -/
theorem nodup_page_keys (dropped : Option UInt64) : (page_keys dropped).flatten.Nodup := by
  refine nodup_flatten_of_named (page_keys_named dropped) ?_ (by decide +kernel)
  simp only [page_keys, List.forall_mem_cons]
  refine ⟨by decide +kernel, nodup_series_keys _ _, nodup_capability_keys, by decide +kernel, ?_,
    List.forall_mem_nil _⟩
  cases dropped with
  | none => exact List.nodup_nil
  | some dropped => exact List.nodup_singleton _

/-- The samples of a page are those of its groups, in the order of the headings. -/
theorem series_page_keys (counts : Counter → ℕ) (obs : Handler.Histogram → List UInt64)
    (available total : ℕ) (cache : BytecodeCacheStats) (dropped : Option UInt64) :
    (page counts obs available total cache dropped).filterMap Line.series
      = (page_keys dropped).flatten := by
  have houtcome : (outcome_page counts).filterMap Line.series
      = (outcome_page fun _ => 0).filterMap Line.series := rfl
  have hgauge : (gauge_page available total 0).filterMap Line.series
      = (gauge_page 0 0 0).filterMap Line.series := rfl
  have hexecution : (execution_page (obs .exec_latency)).filterMap Line.series
      = series_keys "runlet_execution_duration_seconds" [] := rfl
  have hcapability : (capability_page obs).filterMap Line.series = capability_keys := by
    rw [capability_page, List.filterMap_append, List.filterMap_flatMap]
    simp only [series_series_page]
    rfl
  have hcache : (cache_page cache).filterMap Line.series
      = (cache_page ⟨0, 0, 0, 0⟩).filterMap Line.series := rfl
  rw [page, List.filterMap_append, List.filterMap_append, List.filterMap_append,
    List.filterMap_append, List.filterMap_append, hcapability, hexecution, houtcome, hgauge, hcache,
    page_keys]
  simp only [List.flatten_cons, List.flatten_nil, List.append_nil, List.append_assoc]

/-- The families of a page, in order. -/
def families (dropped : Option UInt64) : List String :=
  ["runlet_executions_total", "runlet_rejections_total", "runlet_overload_total",
      "runlet_db_breaker_trips_total", "runlet_bulkhead_permits_available",
      "runlet_bulkhead_permits_total", "runlet_execution_duration_seconds",
      "runlet_capability_op_duration_seconds", "runlet_bytecode_cache_entries",
      "runlet_bytecode_cache_events_total"]
    ++ dropped.toList.map fun _ => "runlet_events_dropped_total"

theorem typed_series_page (name : String) (labels : List (String × String)) (obs : List UInt64) :
    (series_page name labels obs).filterMap Line.typed = [] := rfl

/-- The headings of a page are those of the families. -/
theorem typed_page (counts : Counter → ℕ) (obs : Handler.Histogram → List UInt64)
    (available total : ℕ) (cache : BytecodeCacheStats) (dropped : Option UInt64) :
    (page counts obs available total cache dropped).filterMap Line.typed = families dropped := by
  have hcapability : (capability_page obs).filterMap Line.typed
      = ["runlet_capability_op_duration_seconds"] := by
    rw [capability_page, List.filterMap_append, List.filterMap_flatMap]
    simp only [typed_series_page]
    rfl
  have hexecution : (execution_page (obs .exec_latency)).filterMap Line.typed
      = ["runlet_execution_duration_seconds"] := rfl
  rw [page, List.filterMap_append, List.filterMap_append, List.filterMap_append,
    List.filterMap_append, List.filterMap_append, hcapability, hexecution]
  cases dropped with
  | none => rfl
  | some dropped => rfl

/-- Each line of a series is a sample of its family. -/
theorem sample_series_page (name : String) (labels : List (String × String)) (obs : List UInt64) :
    ∀ line ∈ series_page name labels obs,
      ∃ key, line.series = some key ∧ key.1 ∈ Family.names (name, "histogram") := by
  rw [series_page, List.forall_mem_append]
  constructor
  · intro line hline
    rw [← List.map_uncurry_zip_eq_zipWith] at hline
    obtain ⟨⟨le, n⟩, -, rfl⟩ := List.mem_map.mp hline
    exact ⟨_, rfl, List.mem_cons_self⟩
  · simp only [List.forall_mem_cons]
    exact ⟨⟨_, rfl, List.mem_cons_self⟩, ⟨_, rfl, List.mem_cons_of_mem _ List.mem_cons_self⟩,
      ⟨_, rfl, List.mem_cons_of_mem _ (List.mem_cons_of_mem _ List.mem_cons_self)⟩,
      List.forall_mem_nil _⟩

/-- Each sample stands under the heading of its family. The families come one behind the other,
and a line without a heading of its own has the name of the last one. -/
theorem grouped_page (counts : Counter → ℕ) (obs : Handler.Histogram → List UInt64)
    (available total : ℕ) (cache : BytecodeCacheStats) (dropped : Option UInt64) :
    grouped none (page counts obs available total cache dropped) = true := by
  have htail : ∀ family, grouped family (cache_page cache ++ dropped_page dropped) = true := by
    intro family
    cases dropped with
    | none => rfl
    | some dropped => rfl
  have hcapability : ∀ family,
      grouped family (capability_page obs ++ (cache_page cache ++ dropped_page dropped)) = true := by
    intro family
    have hstart : grouped family (capability_page obs ++ (cache_page cache ++ dropped_page dropped))
        = grouped (some ("runlet_capability_op_duration_seconds", "histogram"))
          ((CAPABILITIES.flatMap fun cap => series_page "runlet_capability_op_duration_seconds"
            [("capability", cap.1)] (obs cap.2)) ++ (cache_page cache ++ dropped_page dropped)) := rfl
    rw [hstart, grouped_samples, htail]
    intro line hline
    obtain ⟨cap, -, hline⟩ := List.mem_flatMap.mp hline
    exact sample_series_page _ _ _ line hline
  have hexecution : ∀ family, grouped family (execution_page (obs .exec_latency)
      ++ (capability_page obs ++ (cache_page cache ++ dropped_page dropped))) = true := by
    intro family
    have hstart : ∀ rest, grouped family (execution_page (obs .exec_latency) ++ rest)
        = grouped (some ("runlet_execution_duration_seconds", "histogram"))
          (series_page "runlet_execution_duration_seconds" [] (obs .exec_latency) ++ rest) :=
      fun _ => rfl
    rw [hstart, grouped_samples (sample_series_page _ _ _), hcapability]
  have hgauge : ∀ family rest, grouped family (gauge_page available total 0 ++ rest)
      = grouped (some ("runlet_bulkhead_permits_total", "gauge")) rest := fun _ _ => rfl
  have houtcome : ∀ rest, grouped none (outcome_page counts ++ rest)
      = grouped (some ("runlet_overload_total", "counter")) rest := fun _ => rfl
  rw [page]
  simp only [List.append_assoc]
  rw [houtcome, hgauge, hexecution]

/-- **A page is well formed**: its samples are grouped, none comes twice, and no family has two
headings. -/
theorem wellFormed_page (counts : Counter → ℕ) (obs : Handler.Histogram → List UInt64)
    (available total : ℕ) (cache : BytecodeCacheStats) (dropped : Option UInt64) :
    WellFormed (page counts obs available total cache dropped) where
  grouped := grouped_page counts obs available total cache dropped
  typed_once := by
    rw [typed_page, families]
    cases dropped with
    | none => decide +kernel
    | some dropped =>
        rw [Option.toList_some, List.map_singleton]
        decide +kernel
  samples_once := by
    rw [series_page_keys]
    exact nodup_page_keys dropped

/-! ## After any effects -/

/-- What an effect tells a histogram. -/
def observation (histogram : Handler.Histogram) : Effect → Option UInt64
  | .observe h micros => if h = histogram then some (clamp micros) else none
  | .count _ | .record _ | .span _ _ | .ask_quota _ _ | .dial | .open_session _ | .ask_permits _
  | .execute _ => none

def observations (trace : List Effect) (histogram : Handler.Histogram) : List UInt64 :=
  trace.filterMap (observation histogram)

theorem metrics_append (trace : List Effect) (e : Effect) :
    metrics (trace ++ [e]) = (metrics trace).enter e := List.foldl_concat ..

theorem books_append (trace : List Effect) (e : Effect) :
    books (trace ++ [e]) = (books trace).enter e := List.foldl_concat ..

/-- The atomic counters are the entries in the books, modulo `2 ^ 64`. By induction from the end
of the trace: an effect adds to a counter what it adds to the books, and wraps where they do not.
-/
theorem counters_metrics (trace : List Effect) (c : Counter) :
    (metrics trace).counters c = UInt64.ofNat ((books trace).counters c) := by
  induction trace using List.reverseRecOn with
  | nil => rfl
  | append_singleton trace e ih =>
      rw [metrics_append, books_append]
      cases e with
      | count counter =>
          simp only [Metrics.enter, Books.enter, Function.update_apply]
          by_cases hc : c = counter
          · rw [if_pos hc, if_pos hc, ← hc, ih, UInt64.ofNat_add]
            rfl
          · rw [if_neg hc, if_neg hc, ih]
      | observe histogram micros =>
          cases histogram with
          | exec_latency => exact ih
          | http => exact ih
          | s3 => exact ih
          | driver kind => exact ih
      | record event => exact ih
      | span field value => exact ih
      | ask_quota tenant plan => exact ih
      | dial => exact ih
      | open_session init => exact ih
      | ask_permits partition => exact ih
      | execute invocation => exact ih

/-- The histograms are those of what was observed. By induction from the end of the trace: an
effect observes one value in one histogram, or none. -/
theorem latency_metrics (trace : List Effect) (h : Handler.Histogram) :
    (metrics trace).latency h = observed (observations trace h) := by
  induction trace using List.reverseRecOn with
  | nil => rfl
  | append_singleton trace e ih =>
      rw [metrics_append, observations, List.filterMap_append, ← observations]
      cases e with
      | observe histogram micros =>
          simp only [Metrics.enter, Function.update_apply]
          by_cases hh : h = histogram
          · rw [if_pos hh, ← hh, ih]
            have hnew : List.filterMap (observation h) [.observe h micros] = [clamp micros] := by
              simp [observation]
            rw [hnew, observed_append]
          · rw [if_neg hh, ih]
            have hnone : List.filterMap (observation h) [.observe histogram micros] = [] := by
              simp [observation, Ne.symm hh]
            rw [hnone, List.append_nil]
      | count counter => exact ih.trans (congrArg observed (List.append_nil _).symm)
      | record event => exact ih.trans (congrArg observed (List.append_nil _).symm)
      | span field value => exact ih.trans (congrArg observed (List.append_nil _).symm)
      | ask_quota tenant plan => exact ih.trans (congrArg observed (List.append_nil _).symm)
      | dial => exact ih.trans (congrArg observed (List.append_nil _).symm)
      | open_session init => exact ih.trans (congrArg observed (List.append_nil _).symm)
      | ask_permits partition => exact ih.trans (congrArg observed (List.append_nil _).symm)
      | execute invocation => exact ih.trans (congrArg observed (List.append_nil _).symm)

/-- The observations of the execution histogram are the executed requests. Each entry of latency
is one observation, whatever its value. -/
theorem length_observations (trace : List Effect) :
    (observations trace .exec_latency).length = (books trace).exec_latency := by
  induction trace using List.reverseRecOn with
  | nil => rfl
  | append_singleton trace e ih =>
      rw [observations, List.filterMap_append, ← observations, List.length_append, ih, books_append]
      cases e with
      | observe histogram micros => cases histogram <;> rfl
      | count counter => rfl
      | record event => rfl
      | span field value => rfl
      | ask_quota tenant plan => rfl
      | dial => rfl
      | open_session init => rfl
      | ask_permits partition => rfl
      | execute invocation => rfl

/-- A process that has not done `2 ^ 64` things shows its books. -/
theorem shows_metrics {trace : List Effect} (hlength : trace.length < 2 ^ 64) :
    Shows (metrics trace) (books trace).counters (observations trace) where
  counters := by
    intro c
    have hle : (books trace).counters c ≤ trace.length := by
      rw [counters_books]
      exact Nat.le_trans List.countP_le_length (List.length_filterMap_le _ _)
    rw [counters_metrics]
    exact UInt64.toNat_ofNat_of_lt' (Nat.lt_of_le_of_lt hle hlength)
  latency := latency_metrics trace
  few := fun h => Nat.lt_of_le_of_lt (List.length_filterMap_le _ _) hlength

/-- **A scrape reads back.** After any effects, up to the first counter that is full, the page is
read as what the effects were: each counter, each histogram with its observations, and the values of
the moment. It is well formed, and ends with its last line. Over requests served in any order and
interleaving, the outcomes, rejections and sheds on it add up to the requests, and the execution
histogram has the executed ones. -/
theorem scrape_reads_back {trace : List Effect} (hlength : trace.length < 2 ^ 64)
    (available bulkhead_capacity : ℕ) (cache : BytecodeCacheStats) (dropped : Option UInt64) :
    let body := scrape (metrics trace) available bulkhead_capacity cache dropped
    let said := page (books trace).counters (observations trace) available bulkhead_capacity cache
      dropped
    read_page body = some said ∧ WellFormed said ∧ unlines (lines body) = body
    ∧ ∀ (state : AppState) (arrivals : List Arrival), trace.Perm (served state arrivals) →
        (books trace).total = arrivals.length
          ∧ (observations trace .exec_latency).length = arrivals.countP (·.executed state) := by
  intro body said
  have hbody : body = Exposition.write said := by
    have hrender := render_write (shows_metrics hlength) available bulkhead_capacity 0 cache
    show scrape (metrics trace) available bulkhead_capacity cache dropped = _
    cases dropped with
    | none =>
        show Metrics.render _ _ _ _ _ = Exposition.write (_ ++ dropped_page none)
        rw [hrender, dropped_page, List.append_nil]
        rfl
    | some dropped =>
        have hdropped : dropped_lines dropped = (dropped_page (some dropped)).map Line.write := by
          simp [dropped_lines, dropped_page, number, Line.write, label_set]
        show Metrics.render _ _ _ _ _ ++ _ = Exposition.write (_ ++ dropped_page (some dropped))
        rw [hrender, hdropped]
        exact (Exposition.write_append _ _).symm
  have hplain := plain_page (books trace).counters (observations trace) available
    bulkhead_capacity cache dropped
  refine ⟨?_, wellFormed_page _ _ _ _ _ _, ?_, ?_⟩
  · rw [hbody, read_page_write hplain]
  · rw [hbody, lines_write hplain]
    rfl
  · intro state arrivals htrace
    have htallied := tallied htrace
    exact ⟨htallied.1, (length_observations trace).trans htallied.2⟩

/-- A box without a sink for events. -/
def silent_state : AppState := { acme_state with events := false }

/-- A scrape behind an executed request and one without a bearer, of a box that keeps
no events. -/
theorem scrape_mixed :
    ∃ said, read_page (scrape (metrics (served silent_state mixed_arrivals)) 1 1 ⟨0, 0, 0, 0⟩ none)
        = some said ∧ WellFormed said
      ∧ (books (served silent_state mixed_arrivals)).total = 2
      ∧ (books (served silent_state mixed_arrivals)).events = [] := by
  have hlength : (served silent_state mixed_arrivals).length < 2 ^ 64 := by decide +kernel
  obtain ⟨hread, hwell, -, hrequests⟩ := scrape_reads_back hlength 1 1 ⟨0, 0, 0, 0⟩ none
  exact ⟨_, hread, hwell, (hrequests silent_state mixed_arrivals (List.Perm.refl _)).1, rfl⟩

end Runlet.Scrape
