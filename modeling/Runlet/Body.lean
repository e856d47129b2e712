/-
The size of a request (`EngineConfig::max_body_size` in `crates/runlet-core/src/config.rs`,
`validate_input_sizes` in `sandbox.rs`, the body limit of `crates/runlet/src/main.rs`).

The script and the context have limits of their own, checked on the script's text and on the bytes
of the context; the body limit is the sum of the two and a constant, checked on the bytes of the
body. In the body the script is escaped. What a script within its limit gains by that may be more
than the constant and what the two leave unused, and then its request is refused as a body
(`admitted_iff`).
-/
import Runlet.Handler
import Runlet.Lib.JsonText

set_option autoImplicit false

namespace Runlet.Handler

open Count Text

/-! ## 1. The limits -/

/-- `EngineConfig::max_body_size`. -/
def EngineConfig.max_body_size (self : EngineConfig) : ℕ :=
  saturating_add 64 (saturating_add 64 self.max_script_size self.max_context_size) (64 * 1024)

/-- The body that has a script and a context and no other field. -/
def request_body (script context : String) : String :=
  "\x7b\"script\":" ++ JsonText.quote script ++ ",\"context\":" ++ context ++ "\x7d"

/-- A request of this form is refused for its size: by `DefaultBodyLimit::max`, or by
`validate_input_sizes`. -/
def RefusedForSize (cfg : EngineConfig) (script context : String) : Prop :=
  cfg.max_body_size < (utf8 (request_body script context)).length
    ∨ ∃ err, validate_input_sizes (utf8 script).length (utf8 context).length cfg.max_script_size
        cfg.max_context_size = .error err

/-! ## 2. The body -/

/-- The characters of the body, with the script's own between two fixed texts. -/
theorem request_body_toList (script context : String) : (request_body script context).toList
    = "\x7b\"script\":\"".toList ++ (JsonText.escape script.toList
      ++ ("\",\"context\":".toList ++ (context.toList ++ "\x7d".toList))) := by
  have hfront : "\x7b\"script\":\"".toList = "\x7b\"script\":".toList ++ ['"'] := rfl
  have hmiddle : "\",\"context\":".toList = '"' :: ",\"context\":".toList := rfl
  rw [request_body, JsonText.quote, hfront, hmiddle]
  simp only [String.toList_append, String.toList_ofList, List.append_assoc, List.cons_append,
    List.nil_append]

/-- The body is the document it is meant to be. -/
theorem parse_request_body {script context : String} {v : JsonText.Tree}
    (h : JsonText.parse (utf16 context) = some v) :
    JsonText.parse (utf16 (request_body script context))
      = some (.object [(utf16 "script", .string (utf16 script)), (utf16 "context", v)]) := by
  have hunits : utf16 (request_body script context)
      = utf16 "\x7b\"script\":" ++ ((utf16 (JsonText.quote script) ++ [0x2c])
        ++ (utf16 "\"context\":" ++ (utf16 context ++ [0x7d]))) := by
    rw [request_body]
    simp only [utf16, String.toList_append, List.flatMap_append, List.append_assoc]
    rfl
  have hscript : JsonText.run JsonText.init (utf16 "\x7b\"script\":")
      = some ⟨.value, [.member [] (utf16 "script")]⟩ := rfl
  have hcontext : JsonText.run ⟨.name, [.object [(utf16 "script", .string (utf16 script))]]⟩
      (utf16 "\"context\":")
      = some ⟨.value, [.member [(utf16 "script", .string (utf16 script))] (utf16 "context")]⟩ := rfl
  rw [hunits, JsonText.parse, JsonText.run_append_of hscript,
    JsonText.run_append_of (JsonText.run_member (JsonText.parse_quote script) [] _ [])]
  rw [List.nil_append, JsonText.run_append_of hcontext, JsonText.run_last_member h]
  rfl

/-- What the escapes of a script add. -/
def escapes (script : String) : ℕ :=
  script.toList.countP JsonText.is_short + 5 * script.toList.countP JsonText.is_control

/-- The bytes of the body: those of the two values, the escapes of the script, and 24 for the
rest. -/
theorem request_body_length (script context : String) :
    (utf8 (request_body script context)).length
      = (utf8 script).length + (utf8 context).length + escapes script + 24 := by
  have hlen := JsonText.bytes_escape script.toList
  rw [utf8, ← JsonText.bytes, request_body_toList]
  simp only [JsonText.bytes_append]
  rw [hlen, show JsonText.bytes "\x7b\"script\":\"".toList = 11 from rfl,
    show JsonText.bytes "\",\"context\":".toList = 12 from rfl,
    show JsonText.bytes "\x7d".toList = 1 from rfl, escapes, utf8, utf8, JsonText.bytes,
    JsonText.bytes]
  omega

/-! ## 3. What is admitted -/

/-- The escapes find room: in the constant, less what the body needs besides the two values, and in
what these leave unused of their limits. (The second half is a bound on the text as such.) -/
def HasRoom (cfg : EngineConfig) (script context : String) : Prop :=
  escapes script ≤ 65512 + (cfg.max_script_size - (utf8 script).length)
      + (cfg.max_context_size - (utf8 context).length)
    ∧ (utf8 script).length + (utf8 context).length + escapes script + 24 < 2 ^ 64

section
variable {cfg : EngineConfig} {script context : String}

/-- Within the limits the body fits exactly if the escapes have room. -/
theorem body_le_iff (hscript : (utf8 script).length ≤ cfg.max_script_size)
    (hcontext : (utf8 context).length ≤ cfg.max_context_size) :
    (utf8 (request_body script context)).length ≤ cfg.max_body_size
      ↔ HasRoom cfg script context := by
  rw [request_body_length, EngineConfig.max_body_size, saturating_add, saturating_add, HasRoom]
  omega

/-- Within the limits, only the body limit refuses. -/
theorem refused_iff (hscript : (utf8 script).length ≤ cfg.max_script_size)
    (hcontext : (utf8 context).length ≤ cfg.max_context_size) :
    RefusedForSize cfg script context
      ↔ cfg.max_body_size < (utf8 (request_body script context)).length := by
  have hvalid : validate_input_sizes (utf8 script).length (utf8 context).length
      cfg.max_script_size cfg.max_context_size = .ok () := by
    rw [validate_input_sizes, if_neg (Nat.not_lt.mpr hscript), if_neg (Nat.not_lt.mpr hcontext)]
  rw [RefusedForSize, hvalid]
  exact or_iff_left nofun

/-- A script and a context within their limits: the body is within its limit, and the request is
not refused for its size, iff the escapes have room. -/
theorem admitted_iff (hscript : (utf8 script).length ≤ cfg.max_script_size)
    (hcontext : (utf8 context).length ≤ cfg.max_context_size) :
    ((utf8 (request_body script context)).length ≤ cfg.max_body_size
        ∧ ¬ RefusedForSize cfg script context)
      ↔ HasRoom cfg script context := by
  rw [refused_iff hscript hcontext, Nat.not_lt, and_self, body_le_iff hscript hcontext]

end

/-- The defaults: 1 MiB for a script, and for a context an eighth of 32 MiB. -/
def default_limits : EngineConfig := ⟨4000, 1024 * 1024, 32 * 1024 * 1024 / 8⟩

theorem utf8_of_ascii {cs : List Char} (h : ∀ c ∈ cs, c.toNat < 0x80) :
    (utf8 (String.ofList cs)).length = cs.length := by
  rw [utf8, String.toList_ofList, ← JsonText.bytes, JsonText.bytes_of_ascii h]

/-- A script of a mebibyte that begins with `n` line feeds. -/
def line_feeds (n : ℕ) : String :=
  String.ofList (List.replicate n '\n' ++ List.replicate (1024 * 1024 - n) 'a')

/-- A JSON string that is a context of four mebibytes. -/
def full_context : String :=
  JsonText.quote (String.ofList (List.replicate (32 * 1024 * 1024 / 8 - 2) 'a'))

/-- The script has a byte for each of its characters. -/
theorem utf8_line_feeds {n : ℕ} (hn : n ≤ 1024 * 1024) :
    (utf8 (line_feeds n)).length = 1024 * 1024 := by
  have hascii : ∀ c ∈ List.replicate n '\n' ++ List.replicate (1024 * 1024 - n) 'a',
      c.toNat < 0x80 := by
    intro c hc
    rcases List.mem_append.mp hc with hc | hc
    · rw [List.eq_of_mem_replicate hc]
      decide
    · rw [List.eq_of_mem_replicate hc]
      decide
  rw [line_feeds, utf8_of_ascii hascii, List.length_append, List.length_replicate,
    List.length_replicate, Nat.add_sub_cancel' hn]

/-- Each line feed is one escape. -/
theorem escapes_line_feeds (n : ℕ) : escapes (line_feeds n) = n := by
  rw [escapes, line_feeds, String.toList_ofList, List.countP_append, List.countP_append,
    List.countP_replicate, List.countP_replicate, List.countP_replicate, List.countP_replicate,
    if_pos (by decide), if_neg (by decide), if_neg (by decide), if_neg (by decide)]
  omega

/-- A quoted text has its own bytes, its escapes, and two quotation marks. -/
theorem utf8_quote (s : String) : (utf8 (JsonText.quote s)).length
    = (utf8 s).length + escapes s + 2 := by
  have hquote : '"' :: (JsonText.escape s.toList ++ ['"'])
      = ['"'] ++ (JsonText.escape s.toList ++ ['"']) := rfl
  have hself : JsonText.bytes s.toList = (utf8 s).length := rfl
  rw [utf8, JsonText.quote, String.toList_ofList, ← JsonText.bytes, hquote, JsonText.bytes_append,
    JsonText.bytes_append, JsonText.bytes_escape, ← escapes, hself,
    show JsonText.bytes ['"'] = 1 from rfl]
  omega

/-- The context is exactly at its limit. -/
theorem utf8_full_context : (utf8 full_context).length = 32 * 1024 * 1024 / 8 := by
  have hascii : ∀ c ∈ List.replicate (32 * 1024 * 1024 / 8 - 2) 'a', c.toNat < 0x80 := by
    intro c hc
    rw [List.eq_of_mem_replicate hc]
    decide
  have hnone : escapes (String.ofList (List.replicate (32 * 1024 * 1024 / 8 - 2) 'a')) = 0 := by
    rw [escapes, String.toList_ofList, List.countP_replicate, List.countP_replicate,
      if_neg (by decide), if_neg (by decide)]
  rw [full_context, utf8_quote, utf8_of_ascii hascii, hnone, List.length_replicate]

/-- A script and a context that use their limits, with as many line feeds as find room. -/
theorem admitted_line_feeds :
    (utf8 (request_body (line_feeds 65512) full_context)).length ≤ default_limits.max_body_size
      ∧ ¬ RefusedForSize default_limits (line_feeds 65512) full_context := by
  have hscript := utf8_line_feeds (show 65512 ≤ 1024 * 1024 by decide)
  refine (@admitted_iff default_limits _ _ (Nat.le_of_eq hscript)
    (Nat.le_of_eq utf8_full_context)).mpr ⟨?_, ?_⟩
  · rw [escapes_line_feeds]
    exact Nat.le_add_right_of_le (Nat.le_add_right _ _)
  · rw [escapes_line_feeds, hscript, utf8_full_context]
    decide

/-- A script of line feeds beside a context that uses its limit. -/
theorem line_feeds_refused : ¬ ∀ (cfg : EngineConfig) (script context : String) (v : JsonText.Tree),
    JsonText.parse (utf16 context) = some v →
    (utf8 script).length ≤ cfg.max_script_size → (utf8 context).length ≤ cfg.max_context_size →
    (utf8 (request_body script context)).length ≤ cfg.max_body_size
      ∧ ¬ RefusedForSize cfg script context := by
  intro hall
  have hscript := utf8_line_feeds (Nat.le_refl (1024 * 1024))
  have hscript_le := Nat.le_of_eq hscript
  have hcontext_le := Nat.le_of_eq utf8_full_context
  have hadmitted := hall default_limits _ _ _ (JsonText.parse_quote _) hscript_le hcontext_le
  have hroom := ((@body_le_iff default_limits _ _ hscript_le hcontext_le).mp hadmitted.1).1
  rw [escapes_line_feeds, hscript, utf8_full_context] at hroom
  exact absurd hroom (by decide)

end Runlet.Handler
