/-
The `api` capability's target checks (`crates/runlet-core/src/http.rs`): the host
allowlist, the pre-check of every hop, and the resolver the client connects with.

`reqwest` and `url` are outside the repository. Of a parsed URL the model keeps
what this code reads: the host, in the three forms the `url` crate
distinguishes, and the port. `candidates` is the client: it connects straight to
a literal address, and takes every other host's addresses from `SsrfResolver`.

Each hop makes up to two lookups, one in the pre-check and one at connect time;
they are separate resolvers here, so nothing is assumed about a name keeping its
addresses.

The three layers cover every host but one kind: the bracketed text of an IPv6
literal is no address to `IpAddr::from_str` and no name to the resolver, so the
pre-check lets it through, and the connect-time filter is never asked.
`hop_public_iff` says that this is the only kind.
-/
import Runlet.Ssrf

set_option autoImplicit false

namespace Runlet.Http

open Net Runlet.Ssrf

/-! ## Parsed URLs -/

/-- `url::Host`. -/
inductive Host
  | domain (name : String)
  | ipv4 (ip : Ipv4Addr)
  | ipv6 (ip : Ipv6Addr)
  deriving DecidableEq, Repr

/-- The text `Url::host_str` gives a host: an IPv6 address is in brackets. -/
def Host.to_str : Host → String
  | .domain name => name
  | .ipv4 ip => ip.to_string
  | .ipv6 ip => "[" ++ ip.serialize ++ "]"

structure Url where
  host : Option Host
  port_or_known_default : Option UInt16
  deriving DecidableEq, Repr

def Url.host_str (url : Url) : Option String := url.host.map Host.to_str

/-- A private address written as an IPv6 literal. -/
def Url.PrivateV6Literal (url : Url) : Prop :=
  ∃ ip, url.host = some (.ipv6 ip) ∧ is_private_v6 ip = true

/-! ## The checks -/

/-- Maximum number of redirects to follow per request. -/
def MAX_REDIRECTS : ℕ := 5

/-- What the guard is configured with, and the two library functions it calls:
`Url::parse` and `str::to_lowercase`. -/
structure Guard where
  parse : String → Except String Url
  to_lowercase : String → String
  allowed : List String
  wildcard_allowed : Bool
  allow_private : Bool

namespace Guard

variable (g : Guard)

def is_host_allowed (host : String) : Bool :=
  if g.wildcard_allowed && g.allowed.any (· == "*") then true
  else g.allowed.any fun ah => g.to_lowercase ah == g.to_lowercase host

/-- `validate_url`: the host, for the metrics. -/
def validate_url (dns : Dns) (url : String) : Except String String :=
  match g.parse url with
  | .error err => .error ("invalid URL '" ++ url ++ "': " ++ err)
  | .ok parsed =>
    match parsed.host_str with
    | none => .error ("URL has no host: " ++ url)
    | some host =>
      if !g.is_host_allowed host then .error ("host '" ++ host ++ "' is not in allowed_hosts")
      else
        match block_private_ip dns host (parsed.port_or_known_default.getD 80) g.allow_private with
        | .error err => .error err
        | .ok () => .ok host

inductive Action
  | follow
  | stop
  deriving DecidableEq, Repr

/-- `validate_redirect`, with `previous` the number of URLs already visited. -/
def validate_redirect (dns : Dns) (previous : ℕ) (url : Url) : Action :=
  if MAX_REDIRECTS ≤ previous then .stop
  else
    let host := url.host_str.getD ""
    if !g.is_host_allowed host then .stop
    else
      match block_private_ip dns host (url.port_or_known_default.getD 80) g.allow_private with
      | .error _ => .stop
      | .ok () => .follow

/-- `resolve_filtered`: the addresses of a name that the classifier permits, and
an error when none is left. -/
def resolve_filtered (dns : Dns) (host : String) : Except String (List SocketAddr) :=
  match to_socket_addrs dns host 0 with
  | .error err => .error err
  | .ok addrs =>
    let kept := addrs.filter fun addr => g.allow_private || !is_private_ip addr.ip
    if kept.isEmpty then
      .error ("host '" ++ host ++ "' has no public address (SSRF-filtered)")
    else .ok kept

/-! ## The client -/

/-- The addresses the client may connect to for a URL. -/
def candidates (dns : Dns) (url : Url) : Except String (List IpAddr) :=
  match url.host with
  | none => .error "no host"
  | some (.ipv4 ip) => .ok [.v4 ip]
  | some (.ipv6 ip) => .ok [.v6 ip]
  | some (.domain name) => (g.resolve_filtered dns name).map fun addrs => addrs.map SocketAddr.ip

/-- One hop of a redirect chain, with what the resolver answers at its two
lookups. -/
structure Hop where
  url : Url
  precheck : Dns
  connect : Dns

/-- The addresses a chain of redirects may connect to, hop by hop; it ends at the
first hop that is stopped or cannot be reached. -/
def follow_redirects (previous : ℕ) : List Hop → List IpAddr
  | [] => []
  | hop :: rest =>
    match g.validate_redirect hop.precheck previous hop.url with
    | .stop => []
    | .follow =>
      match g.candidates hop.connect hop.url with
      | .error _ => []
      | .ok addrs => addrs ++ follow_redirects (previous + 1) rest

/-- The addresses one `api` request may connect to: the URL's own, and those of
the redirects the servers answer with. -/
def request (url : String) (precheck connect : Dns) (redirects : List Hop) : List IpAddr :=
  match g.validate_url precheck url, g.parse url with
  | .ok _, .ok parsed =>
    match g.candidates connect parsed with
    | .error _ => []
    | .ok addrs => addrs ++ g.follow_redirects 1 redirects
  | _, _ => []

/-! ## What each layer covers -/

/-- `resolve_filtered` hands out public addresses only. -/
theorem resolve_filtered_public (hg : g.allow_private = false) {dns : Dns} {host : String}
    {addrs : List SocketAddr} (h : g.resolve_filtered dns host = .ok addrs) :
    ∀ addr ∈ addrs, is_private_ip addr.ip = false := by
  unfold resolve_filtered at h
  split at h
  · cases h
  · dsimp only at h
    split at h
    · cases h
    · cases h
      intro addr hmem
      have hkeep := (List.mem_filter.mp hmem).2
      rw [hg] at hkeep
      simpa using hkeep

/-- A name is only ever connected to at public addresses. -/
theorem candidates_domain_public (hg : g.allow_private = false) {dns : Dns} {url : Url}
    {name : String} (hhost : url.host = some (.domain name)) {addrs : List IpAddr}
    (h : g.candidates dns url = .ok addrs) : ∀ addr ∈ addrs, is_private_ip addr = false := by
  simp only [candidates, hhost] at h
  cases hres : g.resolve_filtered dns name with
  | error err => rw [hres] at h; cases h
  | ok socks =>
      rw [hres] at h
      cases h
      intro addr hmem
      obtain ⟨sock, hsock, rfl⟩ := List.mem_map.mp hmem
      exact g.resolve_filtered_public hg hres sock hsock

/-- The pre-check of a hop, as both validations make it. -/
def Vetted (dns : Dns) (url : Url) : Prop :=
  g.is_host_allowed (url.host_str.getD "") = true
    ∧ block_private_ip dns (url.host_str.getD "") (url.port_or_known_default.getD 80)
        g.allow_private = .ok ()

/-- A redirect is followed if there were not too many before it, and its target passes what the
first URL had to pass. -/
theorem validate_redirect_follow (dns : Dns) (previous : ℕ) (url : Url) :
    g.validate_redirect dns previous url = .follow
      ↔ previous < MAX_REDIRECTS ∧ g.Vetted dns url := by
  unfold validate_redirect Vetted
  by_cases hmax : MAX_REDIRECTS ≤ previous
  · simp [hmax, not_lt.mpr hmax]
  · rw [if_neg hmax]
    by_cases hallow : g.is_host_allowed (url.host_str.getD "") = true
    · cases hb : block_private_ip dns (url.host_str.getD "")
          (url.port_or_known_default.getD 80) g.allow_private with
      | error err => simp [hb]
      | ok _ => simp [hallow, hb, not_le.mp hmax]
    · simp [hallow]

/-- A URL with a host passes if it is vetted. -/
theorem validate_url_ok {dns : Dns} {text : String} {url : Url} (hparse : g.parse text = .ok url) :
    (∃ host, g.validate_url dns text = .ok host) ↔ url.host.isSome ∧ g.Vetted dns url := by
  unfold validate_url Vetted
  rw [hparse]
  cases hhost : url.host with
  | none => simp [Url.host_str, hhost]
  | some host =>
      simp only [Url.host_str, hhost, Option.map_some, Option.getD_some]
      by_cases hallow : g.is_host_allowed host.to_str = true
      · cases hb : block_private_ip dns host.to_str
            (url.port_or_known_default.getD 80) g.allow_private with
        | error err => simp [hallow]
        | ok _ => simp [hallow]
      · simp [hallow]

/-- A vetted hop connects to public addresses, unless its host is a private IPv6
literal. The three host forms are covered by three different layers. -/
theorem candidates_public (hg : g.allow_private = false) {precheck connect : Dns} {url : Url}
    (hvet : g.Vetted precheck url) (hv6 : ¬ url.PrivateV6Literal) {addrs : List IpAddr}
    (h : g.candidates connect url = .ok addrs) : ∀ addr ∈ addrs, is_private_ip addr = false := by
  cases hhost : url.host with
  | none => simp [candidates, hhost] at h
  | some host =>
      cases host with
      | domain name => exact g.candidates_domain_public hg hhost h
      | ipv4 ip =>
          -- the pre-check reads the dotted form back
          have hblock := hvet.2
          rw [hg] at hblock
          simp only [Url.host_str, hhost, Option.map_some, Option.getD_some, Host.to_str] at hblock
          rw [block_private_ip_dotted] at hblock
          simp only [candidates, hhost, Except.ok.injEq] at h
          subst h
          simpa [is_private_ip] using hblock
      | ipv6 ip =>
          have hpub : is_private_v6 ip = false := by
            by_contra hpriv
            exact hv6 ⟨ip, hhost, by simpa using hpriv⟩
          simp only [candidates, hhost, Except.ok.injEq] at h
          subst h
          simpa [is_private_ip] using hpub

/-- A private IPv6 literal that the allowlist admits is vetted all the same. -/
theorem vetted_of_v6 (hg : g.allow_private = false) {dns : Dns} (hdns : RejectsBrackets dns)
    {url : Url} {ip : Ipv6Addr} (hhost : url.host = some (.ipv6 ip))
    (hallow : g.is_host_allowed (url.host_str.getD "") = true) : g.Vetted dns url := by
  refine ⟨hallow, ?_⟩
  rw [hg]
  apply block_private_ip_bracket hdns
  rw [Url.host_str, hhost]
  simp [Host.to_str, String.toList_append]
  rfl

/-! ## Every hop, and every chain -/

/-- What the guard is for: once a hop is vetted, wherever the client connects is
public. -/
def HopPublic (precheck connect : Dns) (url : Url) : Prop :=
  g.Vetted precheck url → ∀ addrs, g.candidates connect url = .ok addrs →
    ∀ addr ∈ addrs, is_private_ip addr = false

/-- The one kind of host that gets past it: a private IPv6 literal, allowed by
the list. -/
def Bypass (url : Url) : Prop :=
  url.PrivateV6Literal ∧ g.is_host_allowed (url.host_str.getD "") = true

/-- **One hop.** What it reaches is public unless the check was passed by a host that the resolver
of the check does not know: a bracketed literal. -/
theorem hop_public_iff (hg : g.allow_private = false) {precheck : Dns}
    (hdns : RejectsBrackets precheck) (connect : Dns) (url : Url) :
    g.HopPublic precheck connect url ↔ ¬ g.Bypass url := by
  constructor
  · rintro hpub ⟨⟨ip, hhost, hpriv⟩, hallow⟩
    have hvet := g.vetted_of_v6 hg hdns hhost hallow
    have := hpub hvet [.v6 ip] (by simp [candidates, hhost]) (.v6 ip) (List.mem_singleton_self _)
    rw [is_private_ip, hpriv] at this
    cases this
  · intro hby hvet addrs haddrs
    exact g.candidates_public hg hvet (fun hv6 => hby ⟨hv6, hvet.1⟩) haddrs

/-- Every address a chain of redirects may connect to is public, if no hop of it
gets past the guard. The induction is on the chain; `previous` only grows. -/
theorem follow_redirects_public (hg : g.allow_private = false) (redirects : List Hop)
    (hby : ∀ hop ∈ redirects, ¬ g.Bypass hop.url) :
    ∀ previous, ∀ addr ∈ g.follow_redirects previous redirects, is_private_ip addr = false := by
  induction redirects with
  | nil =>
      intro previous addr hmem
      cases hmem
  | cons hop rest ih =>
      intro previous addr hmem
      rw [follow_redirects] at hmem
      cases hval : g.validate_redirect hop.precheck previous hop.url with
      | stop => simp [hval] at hmem
      | follow =>
          have hvet := ((g.validate_redirect_follow _ _ _).mp hval).2
          cases hcand : g.candidates hop.connect hop.url with
          | error err => simp [hval, hcand] at hmem
          | ok addrs =>
              simp only [hval, hcand] at hmem
              rcases List.mem_append.mp hmem with hmem | hmem
              · have hv6 : ¬ hop.url.PrivateV6Literal := fun hv6 =>
                  hby hop List.mem_cons_self ⟨hv6, hvet.1⟩
                exact g.candidates_public hg hvet hv6 hcand addr hmem
              · exact ih (fun hop' hmem' => hby hop' (List.mem_cons_of_mem _ hmem')) _ addr hmem

/-- A whole request, with its redirects. -/
theorem request_public (hg : g.allow_private = false) (text : String) (precheck connect : Dns)
    (redirects : List Hop) (hurl : ∀ url, g.parse text = .ok url → ¬ g.Bypass url)
    (hby : ∀ hop ∈ redirects, ¬ g.Bypass hop.url) :
    ∀ addr ∈ g.request text precheck connect redirects, is_private_ip addr = false := by
  intro addr hmem
  rw [request] at hmem
  cases hparse : g.parse text with
  | error err => simp [hparse] at hmem
  | ok url =>
      cases hval : g.validate_url precheck text with
      | error err => simp [hval] at hmem
      | ok host =>
          have hvet := ((g.validate_url_ok hparse).mp ⟨host, hval⟩).2
          cases hcand : g.candidates connect url with
          | error err => simp [hparse, hval, hcand] at hmem
          | ok addrs =>
              simp only [hparse, hval, hcand] at hmem
              rcases List.mem_append.mp hmem with hmem | hmem
              · have hv6 : ¬ url.PrivateV6Literal := fun hv6 => hurl url hparse ⟨hv6, hvet.1⟩
                exact g.candidates_public hg hvet hv6 hcand addr hmem
              · exact g.follow_redirects_public hg redirects hby 1 addr hmem

/-- **The guard and its gap.** At every hop, whichever validation it goes
through, the client connects to public addresses only, if and only if the hop's
host is not an allowed private IPv6 literal (and, for a redirect, the hop is
within the limit); and a request none of whose hops has such a host connects to
public addresses only. -/
theorem guard_public_iff (hg : g.allow_private = false) :
    (∀ (text : String) (url : Url) (precheck connect : Dns), RejectsBrackets precheck →
      g.parse text = .ok url →
      (((∃ host, g.validate_url precheck text = .ok host) →
          ∀ addrs, g.candidates connect url = .ok addrs → ∀ addr ∈ addrs, is_private_ip addr = false)
        ↔ ¬ g.Bypass url))
    ∧ (∀ (previous : ℕ) (url : Url) (precheck connect : Dns), RejectsBrackets precheck →
      ((g.validate_redirect precheck previous url = .follow →
          ∀ addrs, g.candidates connect url = .ok addrs → ∀ addr ∈ addrs, is_private_ip addr = false)
        ↔ ¬ (previous < MAX_REDIRECTS ∧ g.Bypass url)))
    ∧ ∀ (text : String) (precheck connect : Dns) (redirects : List Hop),
      (∀ url, g.parse text = .ok url → ¬ g.Bypass url) →
      (∀ hop ∈ redirects, ¬ g.Bypass hop.url) →
      ∀ addr ∈ g.request text precheck connect redirects, is_private_ip addr = false := by
  refine ⟨?_, ?_, ?_⟩
  · intro text url precheck connect hdns hparse
    rw [g.validate_url_ok hparse, ← g.hop_public_iff hg hdns connect url, HopPublic]
    constructor
    · intro h hvet addrs haddrs
      refine h ⟨?_, hvet⟩ addrs haddrs
      -- without a host there is nothing to connect to
      cases hhost : url.host with
      | none => simp [candidates, hhost] at haddrs
      | some host => rfl
    · intro h hvet
      exact h hvet.2
  · intro previous url precheck connect hdns
    rw [g.validate_redirect_follow]
    have hiff := g.hop_public_iff hg hdns connect url
    by_cases hmax : previous < MAX_REDIRECTS
    · simp only [hmax, true_and]
      exact hiff
    · simp [hmax]
  · exact g.request_public hg

end Guard

/-! ## Two requests -/

/-- The URLs of the two requests below, as the `url` crate parses them. -/
def parse_table : String → Except String Url
  | "http://[::1]/" => .ok ⟨some (.ipv6 ⟨0, 0, 0, 0, 0, 0, 0, 1⟩), some 80⟩
  | "https://api.example.com/" => .ok ⟨some (.domain "api.example.com"), some 443⟩
  | _ => .error "unknown URL"

/-- A guard that allows one name and the loopback literal. -/
def example_guard : Guard where
  parse := parse_table
  to_lowercase := id
  allowed := ["api.example.com", "[::1]"]
  wildcard_allowed := false
  allow_private := false

/-- A resolver that knows one name. -/
def example_dns (ips : List IpAddr) : Dns := fun name =>
  if name = "api.example.com" then .ok ips
  else .error "failed to lookup address information: Name or service not known"

/-- This resolver knows no name with a bracket. -/
theorem example_dns_rejects_brackets (ips : List IpAddr) : RejectsBrackets (example_dns ips) := by
  intro name cs hname
  by_cases h : name = "api.example.com"
  · rw [h] at hname
    have hhead := congrArg List.head? hname
    revert hhead
    simp
  · exact ⟨_, if_neg h⟩

/-- A name that the rebinding resolver moves to loopback between the two lookups:
the client is left with the public address. -/
theorem guard_public_rebinding :
    example_guard.request "https://api.example.com/"
        (example_dns [.v4 ⟨8, 8, 8, 8⟩]) (example_dns [.v4 ⟨127, 0, 0, 1⟩, .v4 ⟨8, 8, 4, 4⟩]) []
      = [.v4 ⟨8, 8, 4, 4⟩]
    ∧ ∀ addr ∈ example_guard.request "https://api.example.com/"
        (example_dns [.v4 ⟨8, 8, 8, 8⟩]) (example_dns [.v4 ⟨127, 0, 0, 1⟩, .v4 ⟨8, 8, 4, 4⟩]) [],
        is_private_ip addr = false := by
  refine ⟨by decide +kernel, ?_⟩
  refine (example_guard.guard_public_iff rfl).2.2 _ _ _ [] ?_ (by nofun)
  rintro url hparse ⟨⟨ip, hhost, -⟩, -⟩
  have hurl : url = ⟨some (.domain "api.example.com"), some 443⟩ := by
    have : example_guard.parse "https://api.example.com/"
        = .ok ⟨some (.domain "api.example.com"), some 443⟩ := by decide
    rw [this] at hparse
    exact (Except.ok.inj hparse).symm
  rw [hurl] at hhost
  cases hhost

/-- `http://[::1]/` passes `validate_url`, and the client connects to loopback. -/
theorem loopback_literal_passes :
    RejectsBrackets (example_dns [])
    ∧ example_guard.allow_private = false
    ∧ example_guard.validate_url (example_dns []) "http://[::1]/" = .ok "[::1]"
    ∧ example_guard.request "http://[::1]/" (example_dns []) (example_dns []) []
        = [.v6 ⟨0, 0, 0, 0, 0, 0, 0, 1⟩]
    ∧ is_private_ip (.v6 ⟨0, 0, 0, 0, 0, 0, 0, 1⟩) = true :=
  ⟨example_dns_rejects_brackets [], rfl, by decide +kernel, by decide +kernel, by decide⟩

end Runlet.Http
