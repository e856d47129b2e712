/-
The structured errors of an `/execute` response
(`crates/runlet-core/src/errors.rs`, and `EngineError` of `engine.rs`): what an
error envelope carries, and how a classified engine error becomes one.
-/
import Runlet.Wire

set_option autoImplicit false

namespace Runlet.Errors

open Runlet.Json Runlet.Wire

/-! ## Envelopes -/

/-- The `error.type` a client branches on. -/
inductive ErrorCategory
  | request
  | runtime
  | script
  | capability
  deriving DecidableEq, Repr

inductive ErrorSource
  | request
  | engine
  | handler
  | db
  | mongo
  | mail
  | s3
  | api
  | redis
  | amq
  | auth
  deriving DecidableEq, Repr

/-- `ErrorSource::parse`: the name of a tag back into a source. -/
def ErrorSource.parse : String → Option ErrorSource
  | "request" => some .request
  | "engine" => some .engine
  | "handler" => some .handler
  | "db" => some .db
  | "mongo" => some .mongo
  | "mail" => some .mail
  | "s3" => some .s3
  | "api" => some .api
  | "redis" => some .redis
  | "amq" => some .amq
  | "auth" => some .auth
  | _ => none

/-- Context that `error_debug` gates. -/
structure ErrorDebug where
  stack : Option String
  raw : Option String
  deriving DecidableEq, Repr

def ErrorDebug.is_empty (debug : ErrorDebug) : Bool := debug.stack.isNone && debug.raw.isNone

structure ErrorEnvelope where
  category : ErrorCategory
  source : ErrorSource
  code : String
  message : Option String := none
  retryable : Bool
  owner : ErrorOwner
  details : Option Value := none
  debug : Option ErrorDebug := none
  deriving DecidableEq, Repr

namespace ErrorEnvelope

def new (category : ErrorCategory) (source : ErrorSource) (code : String) (retryable : Bool)
    (owner : ErrorOwner) : ErrorEnvelope := { category, source, code, retryable, owner }

def with_message (envelope : ErrorEnvelope) (message : String) : ErrorEnvelope :=
  { envelope with message := some message }

def with_details (envelope : ErrorEnvelope) (details : Option Value) : ErrorEnvelope :=
  { envelope with details }

/-- Debug context with nothing in it is dropped. -/
def with_debug (envelope : ErrorEnvelope) (debug : ErrorDebug) : ErrorEnvelope :=
  { envelope with debug := if debug.is_empty then none else some debug }

@[simp] theorem with_message_code (envelope : ErrorEnvelope) (message : String) :
    (envelope.with_message message).code = envelope.code := rfl

end ErrorEnvelope

/-! ## Engine errors -/

/-- A capability error read off the `__runlet` tag of a thrown JS error. -/
structure CapabilityErr where
  source : ErrorSource
  code : String
  retryable : Bool
  owner : ErrorOwner
  raw : Option String
  stack : Option String
  details : Option Value
  deriving DecidableEq, Repr

inductive EngineError
  | syntax_error (message : String)
  | script_not_found (message : String)
  | module_not_found (message : String)
  | handler_not_defined
  | timeout (limit_ms : ℕ)
  | memory_limit
  | malformed (message : String)
  | output_too_large (size limit : ℕ)
  | internal (raw : String)
  | shutting_down
  | script (message : String) (stack : Option String)
  | capability (err : CapabilityErr)
  deriving DecidableEq, Repr

def HANDLER_MISSING_MSG : String := "script must define a `handler(context)` function"

def MEMORY_MSG : String := "memory limit exceeded"

def runtime_envelope (code : String) (retryable : Bool) (owner : ErrorOwner) (message : String) :
    ErrorEnvelope :=
  (ErrorEnvelope.new .runtime .engine code retryable owner).with_message message

def attach_debug (envelope : ErrorEnvelope) (stack raw : Option String) (error_debug : Bool) :
    ErrorEnvelope :=
  if error_debug then envelope.with_debug ⟨stack, raw⟩ else envelope

def script_envelope (message : String) (stack : Option String) (error_debug : Bool) :
    ErrorEnvelope :=
  attach_debug
    ((ErrorEnvelope.new .script .handler "SCRIPT_ERROR" false .developer).with_message message)
    stack none error_debug

/-- One text per capability, so that no driver text gets into `message`. -/
def capability_message : ErrorSource → String
  | .db | .mongo => "database request failed"
  | .mail => "mail delivery failed"
  | .s3 => "object storage request failed"
  | .api => "upstream request failed"
  | .redis => "redis request failed"
  | .amq => "message broker request failed"
  | .auth => "identity request failed"
  | .request | .engine | .handler => "capability request failed"

def CapabilityErr.into_envelope (err : CapabilityErr) (error_debug : Bool) : ErrorEnvelope :=
  attach_debug
    (((ErrorEnvelope.new .capability err.source err.code err.retryable err.owner).with_message
      (capability_message err.source)).with_details err.details)
    err.stack err.raw error_debug

namespace EngineError

def http_status : EngineError → ℕ
  | internal _ => 500
  | shutting_down => 503
  | script _ _ | capability _ => 200
  | script_not_found _ => 404
  | syntax_error _ | module_not_found _ | handler_not_defined | timeout _ | memory_limit
  | malformed _ | output_too_large _ _ => 422

def into_envelope (err : EngineError) (error_debug : Bool) : ErrorEnvelope :=
  match err with
  | syntax_error message => runtime_envelope "SYNTAX_ERROR" false .developer message
  | script_not_found message =>
    (ErrorEnvelope.new .request .request "SCRIPT_NOT_FOUND" false .caller).with_message message
  | module_not_found message => runtime_envelope "MODULE_NOT_FOUND" false .developer message
  | handler_not_defined =>
    runtime_envelope "HANDLER_NOT_DEFINED" false .developer HANDLER_MISSING_MSG
  | timeout limit_ms =>
    runtime_envelope "TIMEOUT" false .developer
      ("execution timed out (" ++ toString limit_ms ++ "ms limit)")
  | memory_limit => runtime_envelope "MEMORY_LIMIT" false .developer MEMORY_MSG
  | malformed message => runtime_envelope "MALFORMED_RESPONSE" false .developer message
  | output_too_large size limit =>
    runtime_envelope "OUTPUT_TOO_LARGE" false .developer
      ("handler output too large: " ++ toString size ++ " bytes (max " ++ toString limit ++ ")")
  | internal raw =>
    attach_debug (runtime_envelope "INTERNAL" true .operator "internal error") none (some raw)
      error_debug
  | shutting_down => runtime_envelope "SHUTTING_DOWN" true .operator "service is shutting down"
  | script message stack => script_envelope message stack error_debug
  | capability cap => cap.into_envelope error_debug

end EngineError

end Runlet.Errors
