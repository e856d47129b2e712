/-
The trusted identity of a request (`crates/runlet/src/identity.rs`) and the
coarse capability gate over it (`authz.rs`).

In trusted-header mode the edge authenticates the caller and injects the
identity as headers under configured names. `from_headers` reads those names and
nothing else: `from_headers_congr`.
-/
import Runlet.Lib.Text
import Mathlib.Data.List.AList

set_option autoImplicit false

namespace Runlet.Identity

open Text

/-! ## Headers -/

/-- The characters of a header name in normal form. -/
def is_token_char (c : Char) : Bool :=
  c.isLower || c.isDigit || "!#$%&'*+-.^_`|~".toList.contains c

/-- `http::HeaderName`: a non-empty token in lower case. -/
structure HeaderName where
  text : String
  valid : text ≠ "" ∧ text.toList.all is_token_char = true

/-- `http::HeaderMap`: the values are bytes, and a name may come more than once. -/
abbrev HeaderMap := List (HeaderName × List UInt8)

/-- `HeaderMap::get`: the first value under a name, in whichever case it is asked
for. A text that is no header name is nobody's. -/
def HeaderMap.get (headers : HeaderMap) (name : String) : Option (List UInt8) :=
  (headers.find? fun header => header.1.text.toList == name.toList.map Char.toLower).map Prod.snd

/-- `HeaderValue::to_str`: only a value of visible ASCII is a text. -/
def to_str (value : List UInt8) : Option String :=
  if value.all fun b => (32 ≤ b.toNat && b.toNat < 127) || b == 9 then
    some (String.ofList (value.map fun b => Char.ofNat b.toNat))
  else none

/-- `header_value`: trimmed, and never blank. -/
def header_value (headers : HeaderMap) (name : String) : Option String :=
  (((headers.get name).bind to_str).map trim).filter fun text => text ≠ ""

/-- `header_list`: the non-blank items between commas. -/
def header_list (headers : HeaderMap) (name : String) : List String :=
  match header_value headers name with
  | none => []
  | some raw =>
    ((raw.toList.splitOn ',').map fun item => trim (String.ofList item)).filter fun item => item ≠ ""

/-- `header_flag`: `true` or `1`, in any case. -/
def header_flag (headers : HeaderMap) (name : String) : Bool :=
  match header_value headers name with
  | none => false
  | some value =>
    let lowered := String.ofList (value.toList.map Char.toLower)
    lowered == "true" || lowered == "1"

/-! ## The identity -/

/-- The configured header names (`config.rs`). -/
structure TrustedHeaders where
  tenant : String := "x-tenant-id"
  user : String := "x-user-id"
  roles : String := "x-user-roles"
  entitlements : String := "x-user-entitlements"
  suspended : String := "x-user-suspended"
  anonymous : String := "x-auth-anonymous"
  plan : String := "x-tenant-plan"
  scope : String := "x-tenant-scope"

structure TrustedIdentity where
  tenant : Option String
  user : Option String
  roles : List String
  entitlements : List String
  suspended : Bool
  anonymous : Bool
  plan : Option String
  scope : Option String
  deriving DecidableEq, Repr

namespace TrustedIdentity

def from_headers (headers : HeaderMap) (names : TrustedHeaders) : TrustedIdentity where
  tenant := header_value headers names.tenant
  user := header_value headers names.user
  roles := header_list headers names.roles
  entitlements := header_list headers names.entitlements
  suspended := header_flag headers names.suspended
  anonymous := header_flag headers names.anonymous
  plan := header_value headers names.plan
  scope := header_value headers names.scope

/-- Roles and entitlements are one pool of grants. -/
def has_grant (identity : TrustedIdentity) (needle : String) : Bool :=
  identity.entitlements.contains needle || identity.roles.contains needle

end TrustedIdentity

/-- Two requests carry the same value under each of the configured names. -/
structure AgreeOn (names : TrustedHeaders) (h₁ h₂ : HeaderMap) : Prop where
  tenant : h₁.get names.tenant = h₂.get names.tenant
  user : h₁.get names.user = h₂.get names.user
  roles : h₁.get names.roles = h₂.get names.roles
  entitlements : h₁.get names.entitlements = h₂.get names.entitlements
  suspended : h₁.get names.suspended = h₂.get names.suspended
  anonymous : h₁.get names.anonymous = h₂.get names.anonymous
  plan : h₁.get names.plan = h₂.get names.plan
  scope : h₁.get names.scope = h₂.get names.scope

/-- The identity is a function of the configured headers. -/
theorem from_headers_congr {names : TrustedHeaders} {h₁ h₂ : HeaderMap}
    (h : AgreeOn names h₁ h₂) :
    TrustedIdentity.from_headers h₁ names = TrustedIdentity.from_headers h₂ names := by
  simp only [TrustedIdentity.from_headers, header_list, header_flag, header_value, h.tenant, h.user,
    h.roles, h.entitlements, h.suspended, h.anonymous, h.plan, h.scope]

/-! ## The capability gate -/

structure CapabilityDenied where
  capability : String
  required : String
  deriving DecidableEq, Repr

/-- Capability kind → the entitlement it requires. -/
abbrev Entitlements := AList fun _ : String => String

/-- The loop of `authorize_capabilities`. -/
def authorize_each (map : Entitlements) (identity : TrustedIdentity) :
    List String → Except CapabilityDenied Unit
  | [] => .ok ()
  | kind :: rest =>
    match map.lookup kind with
    | some required =>
      if identity.has_grant required then authorize_each map identity rest
      else .error ⟨kind, required⟩
    | none => authorize_each map identity rest

def authorize_capabilities (map : Entitlements) (requested : List String)
    (identity : TrustedIdentity) : Except CapabilityDenied Unit :=
  if map.entries.isEmpty then .ok () else authorize_each map identity requested

/-- The caller holds what each of the requested capabilities requires. -/
def HoldsAll (map : Entitlements) (requested : List String) (identity : TrustedIdentity) : Prop :=
  ∀ kind ∈ requested, ∀ required, map.lookup kind = some required →
    identity.has_grant required = true

/-- A caller is authorized for a list if it holds each of them. By induction on the list, as the
loop stops at the first that is not held. -/
theorem authorize_each_ok {map : Entitlements} {identity : TrustedIdentity}
    {requested : List String} :
    authorize_each map identity requested = .ok () ↔ HoldsAll map requested identity := by
  induction requested with
  | nil => simp [authorize_each, HoldsAll]
  | cons kind rest ih =>
      have hcons : HoldsAll map (kind :: rest) identity
          ↔ (∀ required, map.lookup kind = some required → identity.has_grant required = true)
            ∧ HoldsAll map rest identity := by
        simp [HoldsAll]
      rw [hcons, ← ih, authorize_each]
      cases hkind : map.lookup kind with
      | none => simp
      | some required =>
          by_cases hgrant : identity.has_grant required = true
          · simp [hgrant]
          · simp [hgrant]

/-- The gate opens exactly for a caller who holds everything. -/
theorem authorize_capabilities_ok {map : Entitlements} {requested : List String}
    {identity : TrustedIdentity} :
    authorize_capabilities map requested identity = .ok () ↔ HoldsAll map requested identity := by
  rw [authorize_capabilities]
  by_cases hempty : map.entries.isEmpty
  · rw [if_pos hempty]
    -- an empty map requires nothing
    have hnone : ∀ kind, map.lookup kind = none := by
      intro kind
      rw [AList.lookup_eq_none]
      intro hmem
      rw [AList.mem_keys, AList.keys, List.isEmpty_iff.mp hempty] at hmem
      simp at hmem
    simp [HoldsAll, hnone]
  · rw [if_neg hempty]
    exact authorize_each_ok

end Runlet.Identity
