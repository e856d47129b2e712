/-
The host of an S3 request (`resolve_host`, `split_host_port` and `endpoint_port`
of `crates/runlet-core/src/s3.rs`): how the operator's endpoint becomes the
scheme and the authority of every URL, and what is checked on the way.

The string that is checked is the endpoint's authority up to its first `/`, less
a port and brackets. The string that is used is that authority itself, or the
bucket and a dot in front of it, and what the client connects to is the host its
URL parser finds in there. That parser is not part of the source: it is the
parameter `url_host`, and `UrlParser` says what it is relied on for, that a plain
spelling of a host comes back as that host. `resolve_host_guard` says for which
configurations the checked string and the parsed host agree well enough for the
check to mean something, whatever the parser makes of the other spellings.
-/
import Runlet.Lib.Text
import Runlet.Ssrf
import Mathlib.Data.List.TakeWhile

set_option autoImplicit false

namespace Runlet.S3

open Net Runlet.Ssrf Text

/-- `S3Config`. -/
structure S3Config where
  endpoint : String
  region : String
  bucket : String
  access_key : String
  secret_key : String
  path_style : Bool := false
  expires : UInt64 := 900
  max_expires : UInt64 := 604800
  max_upload_size : UInt64 := 0
  allow_delete : Bool := false
  deriving DecidableEq, Repr

/-! ## The source -/

/-- `split_host_port`: only an all-digit segment after the last colon is a
port. -/
def split_host_port (authority : List Char) : List Char × List Char :=
  match rsplit_once ':' authority with
  | some (host_part, port_part) =>
    if port_part ≠ [] ∧ port_part.all Char.isDigit then (host_part, ':' :: port_part)
    else (authority, [])
  | none => (authority, [])

/-- `endpoint_port`: the port of a `:port` suffix, or the scheme's own. -/
def endpoint_port (scheme port_suffix : List Char) : Except String UInt16 :=
  match port_suffix with
  | ':' :: port_str =>
    if digits_value 10 port_str < 65536 then .ok (.ofNat (digits_value 10 port_str))
    else .error ("invalid s3 endpoint port '" ++ String.ofList port_str ++ "'")
  | _ => .ok (if eq_ignore_ascii_case scheme "https".toList then 443 else 80)

/-- The endpoint taken apart, before anything is checked against the network. -/
structure Endpoint where
  scheme : List Char
  authority : List Char
  host_only : List Char
  port_suffix : List Char
  port : UInt16
  deriving DecidableEq, Repr

/-- The first part of `resolve_host`: scheme, authority and port. -/
def parse_endpoint (config : S3Config) : Except String Endpoint :=
  match split_once "://".toList config.endpoint.toList with
  | none => .error "s3 endpoint must include a scheme (http:// or https://)"
  | some (scheme, authority) =>
    if !eq_ignore_ascii_case scheme "http".toList && !eq_ignore_ascii_case scheme "https".toList then
      .error ("s3 endpoint scheme must be http or https, got '" ++ String.ofList scheme ++ "'")
    else
      -- a path of the endpoint is dropped; userinfo, `?` and `#` are not looked for
      let authority_clean := authority.takeWhile (· ≠ '/')
      if authority_clean = [] then .error "s3 endpoint host is empty"
      else
        let (host_only, port_suffix) := split_host_port authority_clean
        match endpoint_port scheme port_suffix with
        | .error err => .error err
        | .ok port => .ok ⟨scheme, authority_clean, host_only, port_suffix, port⟩

/-- The host the guard looks at. -/
def Endpoint.bare_host (e : Endpoint) : List Char :=
  trim_end_matches ']' (trim_start_matches '[' e.host_only)

/-- The authority of the URLs: as configured, or with the bucket in front. -/
def Endpoint.host (e : Endpoint) (config : S3Config) : List Char :=
  if config.path_style then e.authority
  else config.bucket.toList ++ '.' :: (e.host_only ++ e.port_suffix)

/-- `resolve_host`. -/
def resolve_host (dns : Dns) (config : S3Config) (allow_private : Bool) :
    Except String (String × String) :=
  match parse_endpoint config with
  | .error err => .error err
  | .ok e =>
    match block_private_ip dns (String.ofList e.bare_host) e.port allow_private with
    | .error err => .error err
    | .ok () => .ok (String.ofList e.scheme, String.ofList (e.host config))

/-! ## What a URL parser makes of the result -/

/-- The host of a URL as its parser hands it to the client: a name, or an
address. -/
inductive Host
  | domain (name : String)
  | ip (addr : IpAddr)
  deriving DecidableEq, Repr

/-- A host that is a private address or resolves to one. -/
def Host.Private (dns : Dns) : Host → Prop
  | .domain name => NamesPrivate dns name
  | .ip addr => is_private_ip addr = true

/-- The text reads as this host: the name itself, or a literal of the address. -/
def Host.ReadsAs (text : List Char) : Host → Prop
  | .domain name => name = String.ofList text
  | .ip addr => IpAddr.from_str (String.ofList text) = some addr

/-- A text that reads as the host is private when the host is. -/
theorem Host.ReadsAs.private_iff {host : Host} {text : List Char} (h : host.ReadsAs text)
    (dns : Dns) : host.Private dns ↔ NamesPrivate dns (String.ofList text) := by
  cases host with
  | domain name =>
      rw [ReadsAs] at h
      rw [Host.Private, h]
  | ip addr => exact (namesPrivate_literal h dns).symm

/-- The URL of a request: what `resolve_host` returns, and a path. -/
def url (scheme host path : List Char) : List Char :=
  scheme ++ ':' :: '/' :: '/' :: (host ++ '/' :: path)

/-- What may follow a host: nothing, or a colon and a port, possibly empty. -/
def valid_port : List Char → Bool
  | [] => true
  | ':' :: digits => digits.all Char.isDigit && digits_value 10 digits < 65536
  | _ => false

/-- What may stand in front of a host: nothing, or a user name and an `@`. -/
def with_userinfo : Option (List Char) → List Char → List Char
  | none, rest => rest
  | some user, rest => user ++ '@' :: rest

/-- `http` or `https`, in any case. -/
def http_scheme (scheme : List Char) : Bool :=
  eq_ignore_ascii_case scheme "http".toList || eq_ignore_ascii_case scheme "https".toList

/-- What a plain name is written with. -/
def plain_char (c : Char) : Bool := c.isLower || c.isDigit || c == '-' || c == '.'

/-- What a dotted quad is written with. -/
def quad_char (c : Char) : Bool := c.isDigit || c == '.'

/-- What an IPv6 literal is written with. -/
def ipv6_char (c : Char) : Bool := c.isAlphanum || c == ':' || c == '.'

/-- What stands after the last dot. -/
def last_label (name : List Char) : List Char :=
  match rsplit_once '.' name with
  | some (_, label) => label
  | none => name

/-- A name that needs no mapping: lower-case letters, digits and hyphens, no empty
label and no Punycode, and a letter to start the last label, so that it is not
taken for a number. -/
def plain_name (name : List Char) : Bool :=
  name.all plain_char
    && ((split ['.'] name).all fun label => !label.isEmpty && !"xn--".toList.isPrefixOf label)
    && (last_label name).head?.any Char.isLower

/-- The plain spellings of a host: a plain name, a dotted quad, or an IPv6 literal
in brackets. -/
inductive Spells : List Char → Host → Prop
  | domain {name : List Char} (hname : plain_name name = true) :
      Spells name (.domain (String.ofList name))
  | v4 {text : List Char} {ip : Ipv4Addr}
      (hchars : text.all quad_char = true)
      (hip : IpAddr.from_str (String.ofList text) = some (.v4 ip)) : Spells text (.ip (.v4 ip))
  | v6 {text : List Char} {ip : Ipv6Addr}
      (hchars : text.all ipv6_char = true)
      (hip : IpAddr.from_str (String.ofList text) = some (.v6 ip)) :
      Spells ('[' :: (text ++ [']'])) (.ip (.v6 ip))

/-- What is relied on of a URL parser: once userinfo and port are taken off, a
plain spelling is the host it spells. Nothing is said of any other spelling, which
a parser may refuse, map or decode. -/
def UrlParser (url_host : List Char → Option Host) : Prop :=
  ∀ (scheme text port path : List Char) (userinfo : Option (List Char)) (host : Host),
    http_scheme scheme = true → (∀ user ∈ userinfo, user.all plain_char = true) →
    Spells text host → valid_port port = true →
    url_host (url scheme (with_userinfo userinfo (text ++ port)) path) = some host

/-! ## Where the two strings are the same -/

/-- The host the guard looks at, of an authority. -/
def bare (authority : List Char) : List Char :=
  trim_end_matches ']' (trim_start_matches '[' (split_host_port authority).1)

/-- A valid port that does not end the text in a colon is what `split_host_port`
takes off. -/
theorem split_host_port_append {host port : List Char} (hport : valid_port port = true)
    (hlast : port ≠ [':']) (hhost : port = [] → ∀ before after, host = before ++ ':' :: after →
      ¬ (after ≠ [] ∧ after.all Char.isDigit = true)) :
    split_host_port (host ++ port) = (host, port) := by
  cases port with
  | nil =>
      rw [List.append_nil, split_host_port]
      cases hsplit : rsplit_once ':' host with
      | none => rfl
      | some parts =>
          have heq := eq_append_of_rsplit_once hsplit
          exact if_neg (hhost rfl _ _ heq)
  | cons c digits =>
      -- the only head `valid_port` accepts is a colon
      by_cases hc : c = ':'
      · subst hc
        rw [valid_port, Bool.and_eq_true] at hport
        have hcolon : ':' ∉ digits := by
          intro hmem
          have := List.all_eq_true.mp hport.1 _ hmem
          revert this
          decide
        have hne : digits ≠ [] := by
          rintro rfl
          exact hlast rfl
        rw [split_host_port, rsplit_once_append host hcolon]
        exact if_pos ⟨hne, hport.1⟩
      · simp [valid_port, hc] at hport

/-- A character outside the class is not in a text of the class. -/
theorem not_mem_of {p : Char → Bool} {text : List Char} (h : ∀ c ∈ text, p c = true) {c : Char}
    (hc : p c = false) : c ∉ text := by
  intro hmem
  rw [h c hmem] at hc
  cases hc

theorem plain_char_of_quad {c : Char} (h : quad_char c = true) : plain_char c = true := by
  rw [quad_char] at h
  rw [plain_char]
  grind

/-- A spelling without brackets or colons is its own bare form, whatever the
port. -/
theorem bare_of_plain {text port : List Char} (htext : ∀ c ∈ text, plain_char c = true)
    (hport : valid_port port = true) (hlast : port ≠ [':']) : bare (text ++ port) = text := by
  rw [bare, split_host_port_append hport hlast]
  · rw [trim_start_matches_of_head, trim_end_matches_of_not_mem (not_mem_of htext rfl)]
    intro hhead
    exact not_mem_of htext (c := '[') rfl (List.mem_of_head? hhead)
  · rintro - before after rfl
    exact absurd (by simp) (not_mem_of htext (c := ':') rfl)

/-- A text in brackets loses them, and the port behind them. -/
theorem bare_of_brackets {text port : List Char} (hopen : '[' ∉ text) (hclose : ']' ∉ text)
    (hport : valid_port port = true) (hlast : port ≠ [':']) :
    bare ('[' :: (text ++ [']']) ++ port) = text := by
  have hhead : (text ++ [']']).head? ≠ some '[' := by
    intro hhead
    cases text with
    | nil => simp at hhead
    | cons c text =>
        rw [List.cons_append, List.head?_cons, Option.some.injEq] at hhead
        exact hopen (hhead ▸ List.mem_cons_self)
  rw [bare, split_host_port_append hport hlast]
  · rw [trim_start_matches, List.dropWhile_cons_of_pos (by simp), ← trim_start_matches,
      trim_start_matches_of_head hhead, trim_end_matches_concat hclose]
  -- without a port, what follows the last colon ends in the bracket
  · rintro rfl before after hsplit ⟨hne, hdigits⟩
    have hend := congrArg List.getLast? hsplit
    rw [← List.cons_append, List.getLast?_concat, List.getLast?_append_of_ne_nil _ (by simp),
      List.getLast?_cons_of_ne_nil hne] at hend
    have hbad := List.all_eq_true.mp hdigits _ (List.mem_of_getLast? hend.symm)
    revert hbad
    decide

/-- The host the guard looks at reads as the host that is spelled, unless an empty
port stands behind it. -/
theorem Spells.readsAs_bare {text port : List Char} {host : Host} (h : Spells text host)
    (hport : valid_port port = true) (hlast : port ≠ [':']) : host.ReadsAs (bare (text ++ port)) := by
  cases h with
  | domain hname =>
      rw [plain_name, Bool.and_eq_true, Bool.and_eq_true] at hname
      rw [bare_of_plain (List.all_eq_true.mp hname.1.1) hport hlast]
      rfl
  | v4 hchars hip =>
      have hplain := fun c hc => plain_char_of_quad (List.all_eq_true.mp hchars c hc)
      rw [bare_of_plain hplain hport hlast]
      exact hip
  | v6 hchars hip =>
      have hchars := List.all_eq_true.mp hchars
      rw [bare_of_brackets (not_mem_of hchars rfl) (not_mem_of hchars rfl) hport hlast]
      exact hip

/-! ## The guard -/

/-- The URL of a request to the endpoint. -/
def Endpoint.url (e : Endpoint) (config : S3Config) (path : List Char) : List Char :=
  S3.url e.scheme (e.host config) path

section Guard

variable (url_host : List Char → Option Host)

/-- What the guard is for: whatever the path, the host of the URL neither is nor
resolves to a private address. -/
def HostGuarded (dns : Dns) (config : S3Config) : Prop :=
  ∀ (scheme host : String) (path : List Char) (target : Host),
    resolve_host dns config false = .ok (scheme, host) →
    url_host (url scheme.toList host.toList path) = some target → ¬ target.Private dns

/-- A host that is returned: the endpoint was read, its own host does not name a private address,
and what is returned is the host of the configured style. -/
theorem resolve_host_ok (dns : Dns) (config : S3Config) (scheme host : String) :
    resolve_host dns config false = .ok (scheme, host) ↔
      ∃ e, parse_endpoint config = .ok e ∧ ¬ NamesPrivate dns (String.ofList e.bare_host)
        ∧ scheme = String.ofList e.scheme ∧ host = String.ofList (e.host config) := by
  unfold resolve_host
  cases hparse : parse_endpoint config with
  | error err => simp
  | ok e =>
      cases hblock : block_private_ip dns (String.ofList e.bare_host) e.port false with
      | error err =>
          have hpriv : NamesPrivate dns (String.ofList e.bare_host) := by
            by_contra hpub
            rw [(block_private_ip_ok _ _ _).mpr hpub] at hblock
            cases hblock
          simp [hblock, hpriv]
      | ok _ =>
          have hpub := (block_private_ip_ok _ _ _).mp hblock
          simp only [hblock, Except.ok.injEq, Prod.mk.injEq, exists_eq_left', hpub,
            not_false_eq_true, true_and]
          exact and_congr eq_comm eq_comm

/-- The guard read off the two strings: the host that is checked and the host
that is used. -/
theorem hostGuarded_iff (dns : Dns) (config : S3Config) :
    HostGuarded url_host dns config ↔ ∀ e path target, parse_endpoint config = .ok e →
      url_host (e.url config path) = some target →
      target.ReadsAs e.bare_host ∨ NamesPrivate dns (String.ofList e.bare_host)
        ∨ ¬ target.Private dns := by
  constructor
  · intro h e path target hparse htarget
    by_cases hbare : NamesPrivate dns (String.ofList e.bare_host)
    · exact Or.inr (Or.inl hbare)
    · have hres := (resolve_host_ok _ _ _ _).mpr ⟨e, hparse, hbare, rfl, rfl⟩
      refine Or.inr (Or.inr (h _ _ path target hres ?_))
      rw [String.toList_ofList, String.toList_ofList]
      exact htarget
  · intro h scheme host path target hres htarget
    obtain ⟨e, hparse, hbare, rfl, rfl⟩ := (resolve_host_ok _ _ _ _).mp hres
    rw [String.toList_ofList, String.toList_ofList] at htarget
    rcases h e path target hparse htarget with hreads | hpriv | hpub
    · rw [hreads.private_iff]
      exact hbare
    · exact absurd hpriv hbare
    · exact hpub

/-- The checked host is the literal of a private address. -/
def PrivateLiteral (text : List Char) : Prop :=
  ∃ ip, IpAddr.from_str (String.ofList text) = some ip ∧ is_private_ip ip = true

/-- A host that is a public address, whatever the resolver. -/
def Host.PublicLiteral : Host → Prop
  | .domain name => ∃ ip, IpAddr.from_str name = some ip ∧ is_private_ip ip = false
  | .ip addr => is_private_ip addr = false

/-- The configurations the guard protects against every resolver: the host of the
URL is the one that was checked, or a public literal; or the checked host is a
private literal, and the endpoint is refused. -/
def Guardable (config : S3Config) : Prop :=
  ∀ e path target, parse_endpoint config = .ok e → url_host (e.url config path) = some target →
    target.ReadsAs e.bare_host ∨ PrivateLiteral e.bare_host ∨ target.PublicLiteral

/-- The resolver that knows one name only, and puts it on loopback. -/
def loopback_only (name : String) : Dns := fun host =>
  if host = name then .ok [.v4 ⟨127, 0, 0, 1⟩] else .error "Name or service not known"

/-- A name that is not the known one is private as a literal only. -/
theorem privateLiteral_of_loopback_only {name : String} {text : List Char}
    (hne : String.ofList text ≠ name)
    (h : NamesPrivate (loopback_only name) (String.ofList text)) : PrivateLiteral text := by
  cases hlit : IpAddr.from_str (String.ofList text) with
  | some ip => exact ⟨ip, hlit, (namesPrivate_literal hlit _).mp h⟩
  | none =>
      obtain ⟨ips, hips, -⟩ := (namesPrivate_name hlit _).mp h
      rw [loopback_only, if_neg hne] at hips
      cases hips

/-- The known name is public only if it is a literal. -/
theorem publicLiteral_of_loopback_only {name : String}
    (h : ¬ NamesPrivate (loopback_only name) name) : (Host.domain name).PublicLiteral := by
  cases hlit : IpAddr.from_str name with
  | some ip =>
      refine ⟨ip, hlit, ?_⟩
      rw [namesPrivate_literal hlit] at h
      simpa using h
  | none =>
      rw [namesPrivate_name hlit] at h
      exact absurd ⟨_, if_pos rfl, _, List.mem_singleton_self _, by decide⟩ h

/-- Unless the two hosts are the same, or one of them decides by itself, some
resolver gets a private target past the guard: the one that knows the host of the
URL and nothing else. -/
theorem guardable_of_hostGuarded {config : S3Config}
    (h : ∀ dns, HostGuarded url_host dns config) : Guardable url_host config := by
  intro e path target hparse htarget
  by_cases hreads : target.ReadsAs e.bare_host
  · exact Or.inl hreads
  right
  cases target with
  | domain name =>
      have hne : String.ofList e.bare_host ≠ name := fun heq => hreads heq.symm
      have hguard := (hostGuarded_iff url_host (loopback_only name) config).mp (h _) e path _
        hparse htarget
      rcases hguard with hreads' | hbare | hpub
      · exact absurd hreads' hreads
      · exact Or.inl (privateLiteral_of_loopback_only hne hbare)
      · exact Or.inr (publicLiteral_of_loopback_only hpub)
  -- an address needs no resolver: take one that does not know the checked host either
  | ip addr =>
      let name := String.ofList ('x' :: e.bare_host)
      have hne : String.ofList e.bare_host ≠ name := by
        intro heq
        exact List.cons_ne_self _ _ (String.ofList_injective heq).symm
      have hguard := (hostGuarded_iff url_host (loopback_only name) config).mp (h _) e path _
        hparse htarget
      rcases hguard with hreads' | hbare | hpub
      · exact absurd hreads' hreads
      · exact Or.inl (privateLiteral_of_loopback_only hne hbare)
      · exact Or.inr (by simpa [Host.Private, Host.PublicLiteral] using hpub)

/-- A configuration that can be guarded is, under every resolver. -/
theorem hostGuarded_of_guardable {config : S3Config} (h : Guardable url_host config) (dns : Dns) :
    HostGuarded url_host dns config := by
  rw [hostGuarded_iff]
  intro e path target hparse htarget
  rcases h e path target hparse htarget with hreads | ⟨ip, hlit, hpriv⟩ | hpub
  · exact Or.inl hreads
  · right; left
    rw [namesPrivate_literal hlit]
    exact hpriv
  · right; right
    cases target with
    | domain name =>
        obtain ⟨ip, hlit, hip⟩ := hpub
        rw [Host.Private, namesPrivate_literal hlit, hip]
        exact Bool.false_ne_true
    | ip addr =>
        rw [Host.PublicLiteral] at hpub
        rw [Host.Private, hpub]
        exact Bool.false_ne_true

/-- Path-style addressing with a plain authority: a plain spelling of a host, and
no port or one that is not empty. -/
def PlainPathStyle (config : S3Config) : Prop :=
  config.path_style = true ∧ ∀ e, parse_endpoint config = .ok e → ∃ text port host,
    e.authority = text ++ port ∧ Spells text host ∧ valid_port port = true ∧ port ≠ [':']

/-- What `parse_endpoint` returns, where it succeeds. -/
theorem parse_endpoint_ok {config : S3Config} {e : Endpoint} (h : parse_endpoint config = .ok e) :
    http_scheme e.scheme = true ∧ e.bare_host = bare e.authority := by
  unfold parse_endpoint at h
  split at h
  · cases h
  · split at h
    · cases h
    · rename_i hscheme
      dsimp only at h
      split at h
      · cases h
      · split at h
        · cases h
        · cases h
          refine ⟨?_, rfl⟩
          rw [http_scheme]
          simpa [or_iff_not_imp_left] using hscheme

/-- For a plain authority the parser finds what the guard looked at. -/
theorem guardable_of_plain (hurl : UrlParser url_host) {config : S3Config}
    (h : PlainPathStyle config) : Guardable url_host config := by
  obtain ⟨hstyle, hplain⟩ := h
  intro e path target hparse htarget
  left
  obtain ⟨hscheme, hbare⟩ := parse_endpoint_ok hparse
  obtain ⟨text, port, host, hauthority, hspells, hport, hlast⟩ := hplain e hparse
  have hhost := hurl e.scheme text port path none host hscheme (by simp) hspells hport
  rw [Endpoint.url, Endpoint.host, if_pos hstyle, hauthority] at htarget
  rw [with_userinfo, htarget, Option.some.injEq] at hhost
  rw [hbare, hauthority, hhost]
  exact hspells.readsAs_bare hport hlast

/-- **The guard, and where it fails.** Against one resolver, the URL's host is
public unless the checked host is public while a different, private host is used;
against all resolvers, exactly the `Guardable` configurations are safe. Both hold
of any URL parser; of one that reads plain spellings as they stand, path-style
addressing with a plain authority is among them. -/
theorem resolve_host_guard (config : S3Config) :
    (∀ dns, HostGuarded url_host dns config ↔ ∀ e path target, parse_endpoint config = .ok e →
      url_host (e.url config path) = some target →
      target.ReadsAs e.bare_host ∨ NamesPrivate dns (String.ofList e.bare_host)
        ∨ ¬ target.Private dns)
    ∧ ((∀ dns, HostGuarded url_host dns config) ↔ Guardable url_host config)
    ∧ (UrlParser url_host → PlainPathStyle config → Guardable url_host config) :=
  ⟨fun dns => hostGuarded_iff url_host dns config,
    ⟨guardable_of_hostGuarded url_host, hostGuarded_of_guardable url_host⟩,
    fun hurl hplain => guardable_of_plain url_host hurl hplain⟩

end Guard

/-! ## A parser, a guarded store and three private targets -/

def not_bracket (c : Char) : Bool := c ≠ '[' && c ≠ ']'

/-- The host of an authority without userinfo that is spelled plainly. -/
def plain_host : List Char → Option Host
  | '[' :: rest =>
    match rest.dropWhile not_bracket, IpAddr.from_str (String.ofList (rest.takeWhile not_bracket)) with
    | ']' :: port, some (.v6 ip) => if valid_port port then some (.ip (.v6 ip)) else none
    | _, _ => none
  | authority =>
    let host := authority.takeWhile plain_char
    if !valid_port (authority.dropWhile plain_char) then none
    else if plain_name host then some (.domain (String.ofList host))
    else (IpAddr.from_str (String.ofList host)).map Host.ip

/-- The parser that reads the plain spellings and refuses the others: the authority
ends at the first `/`, `?` or `#`, and userinfo at its last `@`. -/
def plain_reader (text : List Char) : Option Host :=
  let rest := (text.dropWhile (· ≠ ':')).drop 3
  let authority := rest.takeWhile fun c => c ≠ '/' && c ≠ '?' && c ≠ '#'
  match rsplit_once '@' authority with
  | some (_, after) => plain_host after
  | none => plain_host authority

/-- What does not end an authority or its userinfo. -/
def authority_char (c : Char) : Bool := c ≠ '/' && c ≠ '?' && c ≠ '#' && c ≠ '@'

/-- A class of characters without the four that end an authority or begin its host. -/
theorem authority_char_of {p : Char → Bool} (hslash : p '/' = false) (hquery : p '?' = false)
    (hfragment : p '#' = false) (hat : p '@' = false) {c : Char} (h : p c = true) :
    authority_char c = true := by
  have hnot : ∀ d, p d = false → c ≠ d := by
    rintro d hd rfl
    rw [h] at hd
    cases hd
  simp [authority_char, hnot '/' hslash, hnot '?' hquery, hnot '#' hfragment, hnot '@' hat]

/-- A port is empty, or a colon and digits. -/
theorem valid_port_cases {port : List Char} (h : valid_port port = true) :
    port = [] ∨ ∃ digits, port = ':' :: digits ∧ digits.all Char.isDigit = true := by
  cases port with
  | nil => exact Or.inl rfl
  | cons c digits =>
      by_cases hc : c = ':'
      · subst hc
        rw [valid_port, Bool.and_eq_true] at h
        exact Or.inr ⟨digits, rfl, h.1⟩
      · simp [valid_port, hc] at h

/-- A port is a part of the authority. -/
theorem authority_char_of_valid_port {port : List Char} (h : valid_port port = true) :
    ∀ c ∈ port, authority_char c = true := by
  intro c hc
  rcases valid_port_cases h with rfl | ⟨digits, rfl, hdigits⟩
  · cases hc
  · rcases List.mem_cons.mp hc with rfl | hc
    · decide
    · exact authority_char_of rfl rfl rfl rfl (List.all_eq_true.mp hdigits c hc)

/-- So is a host that is plainly spelled. -/
theorem authority_char_of_spells {text : List Char} {host : Host} (h : Spells text host) :
    ∀ c ∈ text, authority_char c = true := by
  intro c hc
  cases h with
  | domain hname =>
      rw [plain_name, Bool.and_eq_true, Bool.and_eq_true] at hname
      exact authority_char_of rfl rfl rfl rfl (List.all_eq_true.mp hname.1.1 c hc)
  | v4 hchars => exact authority_char_of rfl rfl rfl rfl (List.all_eq_true.mp hchars c hc)
  | v6 hchars =>
      rw [List.mem_cons, List.mem_append, List.mem_singleton] at hc
      rcases hc with rfl | hc | rfl
      · decide
      · exact authority_char_of rfl rfl rfl rfl (List.all_eq_true.mp hchars c hc)
      · decide

/-- Without brackets, the host is what stands before the port. -/
theorem plain_host_of_plain {text port : List Char} (htext : ∀ c ∈ text, plain_char c = true)
    (hport : valid_port port = true) :
    plain_host (text ++ port) = if plain_name text then some (.domain (String.ofList text))
      else (IpAddr.from_str (String.ofList text)).map Host.ip := by
  have htake : port.takeWhile plain_char = [] ∧ port.dropWhile plain_char = port := by
    rcases valid_port_cases hport with rfl | ⟨digits, rfl, -⟩
    · exact ⟨rfl, rfl⟩
    · exact ⟨List.takeWhile_cons_of_neg (by decide), List.dropWhile_cons_of_neg (by decide)⟩
  unfold plain_host
  split
  · rename_i rest heq
    have hmem : '[' ∈ text ++ port := heq ▸ List.mem_cons_self
    rcases List.mem_append.mp hmem with hmem | hmem
    · exact absurd hmem (not_mem_of htext rfl)
    · rcases valid_port_cases hport with rfl | ⟨digits, rfl, hdigits⟩
      · cases hmem
      · have hdigit := (List.mem_cons.mp hmem).resolve_left (by decide)
        exact absurd hdigit (not_mem_of (List.all_eq_true.mp hdigits) rfl)
  · rw [List.takeWhile_append_of_pos htext, List.dropWhile_append_of_pos htext, htake.1, htake.2,
      List.append_nil, hport]
    rfl

/-- The last label of a name is a part of it. -/
theorem mem_of_mem_last_label {name : List Char} {c : Char} (h : c ∈ last_label name) :
    c ∈ name := by
  rw [last_label] at h
  cases hsplit : rsplit_once '.' name with
  | none => simpa [hsplit] using h
  | some parts =>
      rw [hsplit] at h
      rw [eq_append_of_rsplit_once hsplit]
      exact List.mem_append_right _ (List.mem_cons_of_mem _ h)

/-- A dotted quad has no letters. -/
theorem not_isLower_of_quad {c : Char} (h : quad_char c = true) : c.isLower = false := by
  rw [quad_char, Bool.or_eq_true, beq_iff_eq] at h
  rcases h with hdigit | rfl
  · rw [Bool.eq_false_iff]
    intro hlower
    delta Char.isDigit at hdigit
    delta Char.isLower at hlower
    rw [Bool.and_eq_true, decide_eq_true_eq, decide_eq_true_eq] at hdigit hlower
    exact absurd (UInt32.le_trans hlower.1 hdigit.2) (by decide)
  · decide

/-- **A plain spelling is read as the host it spells**, with or without a port behind it: a name,
a quad, or an address in brackets. -/
theorem plain_host_of_spells {text port : List Char} {host : Host} (h : Spells text host)
    (hport : valid_port port = true) : plain_host (text ++ port) = some host := by
  cases h with
  | domain hname =>
      have hchars := hname
      rw [plain_name, Bool.and_eq_true, Bool.and_eq_true] at hchars
      rw [plain_host_of_plain (List.all_eq_true.mp hchars.1.1) hport, if_pos hname]
  | v4 hchars hip =>
      have hquad := List.all_eq_true.mp hchars
      have hplain := fun c hc => plain_char_of_quad (hquad c hc)
      -- a name has a letter behind its last dot
      have hname : ¬ plain_name text = true := by
        rw [plain_name, Bool.and_eq_true, Option.any_eq_true]
        rintro ⟨-, c, hhead, hlower⟩
        have hquadc := hquad c (mem_of_mem_last_label (List.mem_of_head? hhead))
        rw [not_isLower_of_quad hquadc] at hlower
        cases hlower
      rw [plain_host_of_plain hplain hport, hip, if_neg hname]
      rfl
  | @v6 inside ip hchars hip =>
      have hchars := List.all_eq_true.mp hchars
      have hinside : ∀ c ∈ inside, not_bracket c = true := by
        intro c hc
        have hopen : c ≠ '[' := fun h => not_mem_of hchars rfl (h ▸ hc)
        have hclose : c ≠ ']' := fun h => not_mem_of hchars rfl (h ▸ hc)
        simp [not_bracket, hopen, hclose]
      have htake : (inside ++ (']' :: port)).takeWhile not_bracket = inside := by
        rw [List.takeWhile_append_of_pos hinside, List.takeWhile_cons_of_neg (by decide),
          List.append_nil]
      have hdrop : (inside ++ (']' :: port)).dropWhile not_bracket = ']' :: port := by
        rw [List.dropWhile_append_of_pos hinside, List.dropWhile_cons_of_neg (by decide)]
      rw [List.cons_append, List.append_assoc, List.singleton_append, plain_host, htake, hdrop, hip]
      exact if_pos hport

theorem not_ends_of_authority_char {c : Char} (h : authority_char c = true) :
    (decide (c ≠ '/') && decide (c ≠ '?') && decide (c ≠ '#')) = true := by
  rw [authority_char, Bool.and_eq_true] at h
  exact h.1

/-- The parser reads plain spellings as they stand. No plain character ends the authority or its
userinfo, so the host it takes out is the one that was put in. -/
theorem plain_reader_urlParser : UrlParser plain_reader := by
  intro scheme text port path userinfo host hscheme huser hspells hport
  have hchars : ∀ c ∈ text ++ port, authority_char c = true := by
    intro c hc
    rcases List.mem_append.mp hc with hc | hc
    · exact authority_char_of_spells hspells c hc
    · exact authority_char_of_valid_port hport c hc
  have hat : '@' ∉ text ++ port := not_mem_of hchars rfl
  have hcolon : ∀ c ∈ scheme, (decide (c ≠ ':')) = true := by
    intro c hc
    have hlower : c.toLower ∈ scheme.map Char.toLower := List.mem_map_of_mem hc
    rw [http_scheme, eq_ignore_ascii_case, eq_ignore_ascii_case, Bool.or_eq_true, beq_iff_eq,
      beq_iff_eq] at hscheme
    rw [decide_eq_true_iff]
    rintro rfl
    rcases hscheme with heq | heq
    · rw [heq] at hlower
      revert hlower
      decide
    · rw [heq] at hlower
      revert hlower
      decide
  have hrest : ((url scheme (with_userinfo userinfo (text ++ port)) path).dropWhile (· ≠ ':')).drop 3
      = with_userinfo userinfo (text ++ port) ++ '/' :: path := by
    rw [url, List.dropWhile_append_of_pos hcolon]
    rfl
  have hauthority : (with_userinfo userinfo (text ++ port) ++ '/' :: path).takeWhile
      (fun c => c ≠ '/' && c ≠ '?' && c ≠ '#') = with_userinfo userinfo (text ++ port) := by
    rw [List.takeWhile_append_of_pos, List.takeWhile_cons_of_neg (by decide), List.append_nil]
    intro c hc
    cases userinfo with
    | none => exact not_ends_of_authority_char (hchars c hc)
    | some user =>
        rw [with_userinfo, List.mem_append, List.mem_cons] at hc
        rcases hc with hc | rfl | hc
        · have hplain := List.all_eq_true.mp (huser user rfl) c hc
          exact not_ends_of_authority_char (authority_char_of rfl rfl rfl rfl hplain)
        · decide
        · exact not_ends_of_authority_char (hchars c hc)
  rw [plain_reader]
  simp only [hrest, hauthority]
  cases userinfo with
  | none =>
      rw [with_userinfo, rsplit_once_eq_none hat]
      exact plain_host_of_spells hspells hport
  | some user =>
      rw [with_userinfo, rsplit_once_append user hat]
      exact plain_host_of_spells hspells hport

/-- A store with everything but endpoint, bucket and addressing fixed. -/
def store (endpoint bucket : String) (path_style : Bool) : S3Config where
  endpoint := endpoint
  region := "us-east-1"
  bucket := bucket
  access_key := "AKIA"
  secret_key := "secret"
  path_style := path_style

/-- A store with a name and a port. -/
theorem plainPathStyle_store : PlainPathStyle (store "https://store.example:9000" "b" true) := by
  refine ⟨rfl, fun e he => ?_⟩
  have hparse : parse_endpoint (store "https://store.example:9000" "b" true)
      = .ok ⟨"https".toList, "store.example:9000".toList, "store.example".toList, ":9000".toList,
        9000⟩ := by decide +kernel
  rw [hparse] at he
  cases he
  exact ⟨"store.example".toList, ":9000".toList, _, by decide, .domain (by decide +kernel),
    by decide, by decide⟩

/-- A public store whose zone also has an internal name. -/
def zone_dns : Dns := fun name =>
  if name = "store.example" then .ok [.v4 ⟨93, 184, 216, 34⟩]
  else if name = "internal.store.example" then .ok [.v4 ⟨10, 0, 0, 5⟩]
  else .error "Name or service not known"

/-- A store behind a plain name, with a port: the guard protects it, against this
resolver and every other. -/
theorem resolve_host_guard_store :
    Guardable plain_reader (store "https://store.example:9000" "b" true)
      ∧ HostGuarded plain_reader zone_dns (store "https://store.example:9000" "b" true) := by
  obtain ⟨-, hall, hplain⟩ :=
    resolve_host_guard plain_reader (store "https://store.example:9000" "b" true)
  have hguardable := hplain plain_reader_urlParser plainPathStyle_store
  exact ⟨hguardable, hall.mpr hguardable zone_dns⟩

/-- The guard is passed, whatever the URL parser, although the target is private. -/
def PassesPrivate (dns : Dns) (config : S3Config) (scheme host : String) : Prop :=
  resolve_host dns config false = .ok (scheme, host)
    ∧ ∀ url_host, UrlParser url_host → ¬ HostGuarded url_host dns config

/-- A plain spelling of a private target behind what was checked. -/
theorem passesPrivate_of_spells {dns : Dns} {config : S3Config} {scheme host : String}
    (text port : List Char) {target : Host} (userinfo : Option (List Char))
    (hres : resolve_host dns config false = .ok (scheme, host))
    (hscheme : http_scheme scheme.toList = true)
    (huser : ∀ user ∈ userinfo, user.all plain_char = true)
    (hhost : host.toList = with_userinfo userinfo (text ++ port)) (hspells : Spells text target)
    (hport : valid_port port = true) (hpriv : target.Private dns) :
    PassesPrivate dns config scheme host := by
  refine ⟨hres, fun url_host hurl hguard => hguard scheme host [] target hres ?_ hpriv⟩
  rw [hhost]
  exact hurl scheme.toList text port [] userinfo target hscheme huser hspells hport

/-- Past the guard: a name below the checked one (virtual-hosted), a host behind
userinfo, and a literal with an empty port. -/
theorem private_targets_pass :
    PassesPrivate zone_dns (store "https://store.example" "internal" false)
        "https" "internal.store.example"
    ∧ PassesPrivate zone_dns (store "http://store.example@127.0.0.1" "b" true)
        "http" "store.example@127.0.0.1"
    ∧ PassesPrivate zone_dns (store "http://169.254.169.254:" "b" true)
        "http" "169.254.169.254:" := by
  refine ⟨?_, ?_, ?_⟩
  · refine passesPrivate_of_spells "internal.store.example".toList [] none (by decide +kernel)
      (by decide) (by decide) (by decide) (.domain (by decide +kernel)) rfl ?_
    have hname : IpAddr.from_str (String.ofList "internal.store.example".toList) = none := by
      decide +kernel
    rw [Host.Private, namesPrivate_name hname]
    exact ⟨[.v4 ⟨10, 0, 0, 5⟩], by decide +kernel, _, List.mem_singleton_self _, by decide⟩
  · have hlit : IpAddr.from_str (String.ofList "127.0.0.1".toList) = some (.v4 ⟨127, 0, 0, 1⟩) := by
      decide +kernel
    exact passesPrivate_of_spells "127.0.0.1".toList [] (some "store.example".toList)
      (by decide +kernel) (by decide) (by decide) (by decide) (.v4 (by decide) hlit) rfl rfl
  · have hlit : IpAddr.from_str (String.ofList "169.254.169.254".toList)
        = some (.v4 ⟨169, 254, 169, 254⟩) := by decide +kernel
    exact passesPrivate_of_spells "169.254.169.254".toList [':'] none (by decide +kernel)
      (by decide) (by decide) (by decide) (.v4 (by decide) hlit) rfl rfl

end Runlet.S3
