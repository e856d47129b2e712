/-
The shared SSRF guard (`crates/runlet-core/src/ssrf.rs`): which addresses are
private or internal, and the check `block_private_ip` makes of a host before it
is used. `private_families` says which they are by networks, an address taken as
one number of 32 or 128 bits.
-/
import Runlet.Lib.Net

set_option autoImplicit false

namespace Runlet.Ssrf

open Net

/-! ## Classification -/

/-- Loopback, private, link-local, broadcast, unspecified, or the shared address
space 100.64/10. -/
def is_private_v4 (ip : Ipv4Addr) : Bool :=
  ip.is_loopback || ip.is_private || ip.is_link_local || ip.is_broadcast || ip.is_unspecified
    || (ip.a == 100 && 64 ≤ ip.b && ip.b ≤ 127)

/-- A private IPv4 address inside a 6to4 (`2002::/16`) or NAT64 (`64:ff9b::`)
address. -/
def v6_embeds_private_v4 (ip : Ipv6Addr) : Bool :=
  let sixtofour :=
    ip.s0 == 0x2002 && is_private_v4 ⟨hi ip.s1, lo ip.s1, hi ip.s2, lo ip.s2⟩
  let nat64 :=
    ip.s0 == 0x0064 && ip.s1 == 0xff9b && is_private_v4 ⟨hi ip.s6, lo ip.s6, hi ip.s7, lo ip.s7⟩
  sixtofour || nat64

def is_private_v6 (ip : Ipv6Addr) : Bool :=
  if ip.is_loopback || ip.is_unspecified then true
  else if ip.to_ipv4_mapped.any is_private_v4 then true
  else
    let unique_local := ip.s0 &&& 0xfe00 == 0xfc00
    let link_local := ip.s0 &&& 0xffc0 == 0xfe80
    unique_local || link_local || v6_embeds_private_v4 ip

def is_private_ip : IpAddr → Bool
  | .v4 ip => is_private_v4 ip
  | .v6 ip => is_private_v6 ip

/-! ## The check -/

/-- `block_private_ip`. A name that does not resolve passes: "the eventual
connection will fail on its own". -/
def block_private_ip (dns : Dns) (host : String) (port : UInt16) (allow_private : Bool) :
    Except String Unit :=
  if allow_private then .ok ()
  else
    match IpAddr.from_str host with
    | some addr =>
      if is_private_ip addr then
        .error ("requests to private IP " ++ addr.to_string ++ " are blocked")
      else .ok ()
    | none =>
      match to_socket_addrs dns host port with
      | .ok addrs =>
        match addrs.find? fun addr => is_private_ip addr.ip with
        | some addr =>
          .error ("host '" ++ host ++ "' resolves to private IP " ++ addr.ip.to_string ++ ", blocked")
        | none => .ok ()
      | .error _ => .ok ()

/-- A host that is a private address or resolves to one. -/
def NamesPrivate (dns : Dns) (host : String) : Prop :=
  match IpAddr.from_str host with
  | some addr => is_private_ip addr = true
  | none => ∃ ips, lookup_host dns host = .ok ips ∧ ∃ ip ∈ ips, is_private_ip ip = true

theorem namesPrivate_literal {host : String} {ip : IpAddr} (h : IpAddr.from_str host = some ip)
    (dns : Dns) : NamesPrivate dns host ↔ is_private_ip ip = true := by
  rw [NamesPrivate, h]

theorem namesPrivate_name {host : String} (h : IpAddr.from_str host = none) (dns : Dns) :
    NamesPrivate dns host ↔ ∃ ips, dns host = .ok ips ∧ ∃ ip ∈ ips, is_private_ip ip = true := by
  rw [NamesPrivate, h, lookup_host_of_not_literal h]

/-- `block_private_ip` lets a host through exactly when it neither is nor resolves
to a private address. -/
theorem block_private_ip_ok (dns : Dns) (host : String) (port : UInt16) :
    block_private_ip dns host port false = .ok () ↔ ¬ NamesPrivate dns host := by
  rw [block_private_ip, if_neg Bool.false_ne_true, NamesPrivate]
  cases IpAddr.from_str host with
  | some addr =>
      by_cases hp : is_private_ip addr = true
      · simp [hp]
      · simp [hp]
  | none =>
      rw [to_socket_addrs]
      cases lookup_host dns host with
      | error err => simp [Except.map]
      | ok ips =>
          simp only [Except.map, List.find?_map, Function.comp_def]
          cases hfind : ips.find? is_private_ip with
          | none =>
              have hnone := List.find?_eq_none.mp hfind
              simpa using hnone
          | some ip =>
              have hmem := List.mem_of_find?_eq_some hfind
              have hpriv := List.find?_some hfind
              simp only [Option.map_some, reduceCtorEq, false_iff, not_not]
              exact ⟨ips, rfl, ip, hmem, hpriv⟩

/-- A bracketed host passes the check whatever it stands for. -/
theorem block_private_ip_bracket {dns : Dns} (hdns : RejectsBrackets dns) {host : String}
    {cs : List Char} (h : host.toList = '[' :: cs) (port : UInt16) :
    block_private_ip dns host port false = .ok () := by
  rw [block_private_ip_ok, NamesPrivate, from_str_bracket h]
  obtain ⟨err, herr⟩ := lookup_host_bracket hdns h
  rintro ⟨ips, hips, -⟩
  rw [herr] at hips
  cases hips

/-- A dotted quad passes the check exactly when it is public. -/
theorem block_private_ip_dotted (dns : Dns) (ip : Ipv4Addr) (port : UInt16) :
    block_private_ip dns ip.to_string port false = .ok () ↔ is_private_v4 ip = false := by
  rw [block_private_ip_ok, NamesPrivate, from_str_to_string_v4]
  simp [is_private_ip]

/-! ## Families -/

/-- The networks of the private IPv4 addresses. -/
def private_v4 : List (Network Ipv4Addr) :=
  [⟨⟨127, 0, 0, 0⟩, 8⟩, ⟨⟨10, 0, 0, 0⟩, 8⟩, ⟨⟨172, 16, 0, 0⟩, 12⟩, ⟨⟨192, 168, 0, 0⟩, 16⟩,
    ⟨⟨169, 254, 0, 0⟩, 16⟩, ⟨⟨255, 255, 255, 255⟩, 32⟩, ⟨⟨0, 0, 0, 0⟩, 32⟩, ⟨⟨100, 64, 0, 0⟩, 10⟩]

/-- The networks of IPv6 whose addresses are all private: unique-local, link-local, loopback and
unspecified. -/
def private_v6 : List (Network Ipv6Addr) :=
  [⟨⟨0xfc00, 0, 0, 0, 0, 0, 0, 0⟩, 7⟩, ⟨⟨0xfe80, 0, 0, 0, 0, 0, 0, 0⟩, 10⟩,
    ⟨⟨0, 0, 0, 0, 0, 0, 0, 1⟩, 128⟩, ⟨⟨0, 0, 0, 0, 0, 0, 0, 0⟩, 128⟩]

/-- A network whose addresses carry an IPv4 address, and how many bits follow it. -/
structure Embedding where
  net : Network Ipv6Addr
  shift : ℕ
  deriving DecidableEq

/-- `::ffff:v`, `2002:v::` and `64:ff9b::v`. -/
def embeddings : List Embedding :=
  [⟨⟨⟨0, 0, 0, 0, 0, 0xffff, 0, 0⟩, 96⟩, 0⟩, ⟨⟨⟨0x2002, 0, 0, 0, 0, 0, 0, 0⟩, 16⟩, 80⟩,
    ⟨⟨⟨0x64, 0xff9b, 0, 0, 0, 0, 0, 0⟩, 32⟩, 0⟩]

/-- The address carries this IPv4 address. -/
def Embedding.Carries (e : Embedding) (ip : Ipv6Addr) (v : Ipv4Addr) : Prop :=
  ip.within e.net ∧ ip.to_bits / 2 ^ e.shift % 2 ^ 32 = v.to_bits

/-- The tests of the code are the networks of the table, one for one: each test on the octets is a
prefix, or a few of them. -/
theorem is_private_v4_iff (v : Ipv4Addr) :
    is_private_v4 v = true ↔ ∃ net ∈ private_v4, v.within net := by
  have hb := v.b.toNat_lt
  have h127 : v.within ⟨⟨127, 0, 0, 0⟩, 8⟩ ↔ v.a = 127 ∧ v.b.toNat / 2 ^ 8 = 0 :=
    Ipv4Addr.within_iff v (k := 0) (by decide)
  have h10 : v.within ⟨⟨10, 0, 0, 0⟩, 8⟩ ↔ v.a = 10 ∧ v.b.toNat / 2 ^ 8 = 0 :=
    Ipv4Addr.within_iff v (k := 0) (by decide)
  have h172 : v.within ⟨⟨172, 16, 0, 0⟩, 12⟩ ↔ v.a = 172 ∧ v.b.toNat / 2 ^ 4 = 1 :=
    Ipv4Addr.within_iff v (k := 4) (by decide)
  have h192 : v.within ⟨⟨192, 168, 0, 0⟩, 16⟩
      ↔ v.a = 192 ∧ v.b.toNat / 2 ^ 0 = (168 : UInt8).toNat :=
    Ipv4Addr.within_iff v (k := 8) (by decide)
  have h169 : v.within ⟨⟨169, 254, 0, 0⟩, 16⟩
      ↔ v.a = 169 ∧ v.b.toNat / 2 ^ 0 = (254 : UInt8).toNat :=
    Ipv4Addr.within_iff v (k := 8) (by decide)
  have h100 : v.within ⟨⟨100, 64, 0, 0⟩, 10⟩ ↔ v.a = 100 ∧ v.b.toNat / 2 ^ 6 = 1 :=
    Ipv4Addr.within_iff v (k := 2) (by decide)
  have hall : v.b.toNat / 2 ^ 8 = 0 := by omega
  have hprivate : v.b.toNat / 2 ^ 4 = 1 ↔ 16 ≤ v.b ∧ v.b ≤ 31 := by
    simp only [UInt8.le_iff_toNat_le, UInt8.reduceToNat]
    omega
  have hshared : v.b.toNat / 2 ^ 6 = 1 ↔ 64 ≤ v.b ∧ v.b ≤ 127 := by
    simp only [UInt8.le_iff_toNat_le, UInt8.reduceToNat]
    omega
  simp only [private_v4, List.exists_mem_cons_iff, List.not_mem_nil, false_and, exists_false,
    or_false, h127, h10, h172, h192, h169, h100, Ipv4Addr.within_self, hall, hprivate, hshared,
    and_true, pow_zero, Nat.div_one, UInt8.toNat_inj]
  simp only [is_private_v4, Ipv4Addr.is_loopback, Ipv4Addr.is_private, Ipv4Addr.is_link_local,
    Ipv4Addr.is_broadcast, Ipv4Addr.is_unspecified, Bool.or_eq_true, Bool.and_eq_true, beq_iff_eq,
    decide_eq_true_eq, or_assoc, and_assoc]

/-- The private networks of IPv6, by their first words. -/
theorem within_private_v6 (ip : Ipv6Addr) :
    (∃ net ∈ private_v6, ip.within net)
      ↔ ip.s0.toNat / 2 ^ 9 = 126 ∨ ip.s0.toNat / 2 ^ 6 = 1018 ∨ ip.is_loopback = true
        ∨ ip.is_unspecified = true := by
  have hlt := ip.segments_lt
  simp only [Ipv6Addr.is_loopback, Ipv6Addr.is_unspecified, beq_iff_eq, ← Ipv6Addr.to_bits_inj]
  simp only [private_v6, List.exists_mem_cons_iff, List.not_mem_nil, false_and, exists_false,
    or_false, Ipv6Addr.within, Ipv6Addr.to_bits_eq]
  simp only [UInt16.reduceToNat, Nat.reduceMul, Nat.reduceAdd, Nat.reducePow, Nat.reduceSub,
    Nat.reduceDiv]
  omega

/-- An address carries another one in three ways: mapped, -/
theorem carries_mapped {ip : Ipv6Addr} {v : Ipv4Addr} :
    (⟨⟨⟨0, 0, 0, 0, 0, 0xffff, 0, 0⟩, 96⟩, 0⟩ : Embedding).Carries ip v
      ↔ ip.to_ipv4_mapped = some v := by
  have h6 := hi_lo ip.s6
  have h7 := hi_lo ip.s7
  have hlt := ip.segments_lt
  rw [Embedding.Carries, Ipv6Addr.to_ipv4_mapped]
  simp only [Option.ite_none_right_eq_some, Option.some.injEq, ← Ipv4Addr.to_bits_inj,
    ← UInt16.toNat_inj, Ipv6Addr.within, Ipv6Addr.to_bits_eq, Ipv4Addr.to_bits_eq]
  simp only [UInt16.reduceToNat, Nat.reduceMul, Nat.reduceAdd, Nat.reducePow, Nat.reduceSub,
    Nat.reduceDiv]
  omega

/-- as 6to4, -/
theorem carries_sixtofour {ip : Ipv6Addr} {v : Ipv4Addr} :
    (⟨⟨⟨0x2002, 0, 0, 0, 0, 0, 0, 0⟩, 16⟩, 80⟩ : Embedding).Carries ip v
      ↔ ip.s0 = 0x2002 ∧ (⟨hi ip.s1, lo ip.s1, hi ip.s2, lo ip.s2⟩ : Ipv4Addr) = v := by
  have h1 := hi_lo ip.s1
  have h2 := hi_lo ip.s2
  have hlt := ip.segments_lt
  simp only [Embedding.Carries, ← Ipv4Addr.to_bits_inj, ← UInt16.toNat_inj, Ipv6Addr.within,
    Ipv6Addr.to_bits_eq, Ipv4Addr.to_bits_eq]
  simp only [UInt16.reduceToNat, Nat.reduceMul, Nat.reduceAdd, Nat.reducePow, Nat.reduceSub,
    Nat.reduceDiv]
  omega

/-- and behind a NAT64 prefix. -/
theorem carries_nat64 {ip : Ipv6Addr} {v : Ipv4Addr} :
    (⟨⟨⟨0x64, 0xff9b, 0, 0, 0, 0, 0, 0⟩, 32⟩, 0⟩ : Embedding).Carries ip v
      ↔ (ip.s0 = 0x64 ∧ ip.s1 = 0xff9b)
        ∧ (⟨hi ip.s6, lo ip.s6, hi ip.s7, lo ip.s7⟩ : Ipv4Addr) = v := by
  have h1 := hi_lo ip.s6
  have h2 := hi_lo ip.s7
  have hlt := ip.segments_lt
  simp only [Embedding.Carries, ← Ipv4Addr.to_bits_inj, ← UInt16.toNat_inj, Ipv6Addr.within,
    Ipv6Addr.to_bits_eq, Ipv4Addr.to_bits_eq]
  simp only [UInt16.reduceToNat, Nat.reduceMul, Nat.reduceAdd, Nat.reducePow, Nat.reduceSub,
    Nat.reduceDiv]
  omega

/-- **The tests of the code are the tables**: the private networks, and the private addresses that
are carried. -/
theorem is_private_v6_iff (ip : Ipv6Addr) :
    is_private_v6 ip = true
      ↔ (∃ net ∈ private_v6, ip.within net)
        ∨ ∃ e ∈ embeddings, ∃ v, e.Carries ip v ∧ is_private_v4 v = true := by
  have hmask := @mask_eq_iff ip.s0 0xfe00 0xfc00 9 126 (by decide) rfl rfl
  have hmask' := @mask_eq_iff ip.s0 0xffc0 0xfe80 6 1018 (by decide) rfl rfl
  rw [within_private_v6]
  simp only [embeddings, List.exists_mem_cons_iff, List.not_mem_nil, false_and, exists_false,
    or_false, carries_mapped, carries_sixtofour, carries_nat64, and_assoc, exists_and_left,
    exists_eq_left']
  rw [is_private_v6]
  by_cases hself : (ip.is_loopback || ip.is_unspecified) = true
  · rw [if_pos hself]
    rw [Bool.or_eq_true] at hself
    exact iff_of_true rfl (Or.inl (Or.inr (Or.inr hself)))
  · rw [if_neg hself]
    rw [Bool.or_eq_true] at hself
    by_cases hmapped : ip.to_ipv4_mapped.any is_private_v4 = true
    · rw [if_pos hmapped]
      exact iff_of_true rfl (Or.inr (Or.inl ((Option.any_eq_true _ _).mp hmapped)))
    · rw [if_neg hmapped]
      rw [Option.any_eq_true] at hmapped
      simp only [Bool.or_eq_true, hmask, hmask', v6_embeds_private_v4, Bool.and_eq_true, beq_iff_eq]
      simp only [hself, hmapped, or_false, false_or, or_assoc, and_assoc]

/-- An address carries one address at most, in one of the ways. -/
theorem carries_unique {e e' : Embedding} (he : e ∈ embeddings) (he' : e' ∈ embeddings)
    {ip : Ipv6Addr} {v v' : Ipv4Addr} (h : e.Carries ip v) (h' : e'.Carries ip v') :
    e' = e ∧ v' = v := by
  have hfirst : ∀ e ∈ embeddings, ∀ v, e.Carries ip v → ip.s0 = e.net.first.s0 := by
    simp only [embeddings, List.forall_mem_cons, carries_mapped, carries_sixtofour, carries_nat64]
    refine ⟨fun v hv => ?_, fun v hv => hv.1, fun v hv => hv.1.1, ?_⟩
    · rw [Ipv6Addr.to_ipv4_mapped, Option.ite_none_right_eq_some] at hv
      exact hv.1.1
    · exact fun e he => absurd he List.not_mem_nil
  have hapart : ∀ e ∈ embeddings, ∀ e' ∈ embeddings, e'.net.first.s0 = e.net.first.s0 → e' = e := by
    decide
  have hsame := hapart e he e' he' ((hfirst e' he' v' h').symm.trans (hfirst e he v h))
  subst hsame
  exact ⟨rfl, Ipv4Addr.to_bits_inj.mp (h'.2.symm.trans h.2)⟩

/-- Where an address can be in none of the private networks. -/
theorem not_within_private_v6 {ip : Ipv6Addr} (hlocal : ip.s0.toNat / 2 ^ 9 ≠ 126)
    (hlink : ip.s0.toNat / 2 ^ 6 ≠ 1018) (hne : ip.s0 ≠ 0 ∨ ip.s5 ≠ 0) :
    ¬ ∃ net ∈ private_v6, ip.within net := by
  rw [within_private_v6]
  rintro (h | h | h | h)
  · exact hlocal h
  · exact hlink h
  · rw [Ipv6Addr.is_loopback, beq_iff_eq] at h
    subst h
    exact hne.elim (· rfl) (· rfl)
  · rw [Ipv6Addr.is_unspecified, beq_iff_eq] at h
    subst h
    exact hne.elim (· rfl) (· rfl)

/-- The families do not overlap: an address that has an IPv4 address in it, by one of the
embeddings, is in none of the networks of its own. -/
theorem not_within_of_carries {e : Embedding} (he : e ∈ embeddings) {ip : Ipv6Addr} {v : Ipv4Addr}
    (h : e.Carries ip v) : ¬ ∃ net ∈ private_v6, ip.within net := by
  simp only [embeddings, List.mem_cons, List.not_mem_nil, or_false] at he
  rcases he with rfl | rfl | rfl
  · rw [carries_mapped, Ipv6Addr.to_ipv4_mapped, Option.ite_none_right_eq_some] at h
    obtain ⟨⟨h0, -, -, -, -, h5⟩, -⟩ := h
    apply not_within_private_v6
    · rw [h0]
      decide
    · rw [h0]
      decide
    · rw [h5]
      exact Or.inr (by decide)
  · rw [carries_sixtofour] at h
    apply not_within_private_v6
    · rw [h.1]
      decide
    · rw [h.1]
      decide
    · rw [h.1]
      exact Or.inl (by decide)
  · rw [carries_nat64] at h
    apply not_within_private_v6
    · rw [h.1.1]
      decide
    · rw [h.1.1]
      decide
    · rw [h.1.1]
      exact Or.inl (by decide)

/-- An address that carries another is as private as that one. -/
theorem is_private_v6_of_carries {e : Embedding} (he : e ∈ embeddings) {ip : Ipv6Addr}
    {v : Ipv4Addr} (h : e.Carries ip v) : is_private_v6 ip = is_private_v4 v := by
  rw [Bool.eq_iff_iff, is_private_v6_iff]
  constructor
  · rintro (hnet | ⟨e', he', v', h', hv'⟩)
    · exact absurd hnet (not_within_of_carries he h)
    · rw [← (carries_unique he he' h h').2]
      exact hv'
  · intro hv
    exact Or.inr ⟨e, he, v, h, hv⟩

/-- The classification: an IPv4 address is private iff it lies in one of eight networks, an IPv6
address that carries an IPv4 address iff that one is, and of the others just those of the four
private networks. -/
theorem private_families :
    (∀ v : Ipv4Addr, is_private_ip (.v4 v) = true ↔ ∃ net ∈ private_v4, v.within net)
      ∧ (∀ e ∈ embeddings, ∀ (ip : Ipv6Addr) (v : Ipv4Addr), e.Carries ip v →
        is_private_ip (.v6 ip) = is_private_ip (.v4 v))
      ∧ (∀ net ∈ private_v6, ∀ ip : Ipv6Addr, ip.within net → is_private_ip (.v6 ip) = true)
      ∧ ∀ ip : Ipv6Addr, is_private_ip (.v6 ip) = true →
        (∃ net ∈ private_v6, ip.within net) ∨ ∃ e ∈ embeddings, ip.within e.net := by
  refine ⟨is_private_v4_iff, fun e he ip v h => is_private_v6_of_carries he h, ?_, ?_⟩
  · intro net hnet ip hip
    exact (is_private_v6_iff ip).mpr (Or.inl ⟨net, hnet, hip⟩)
  · intro ip hip
    rcases (is_private_v6_iff ip).mp hip with hnet | ⟨e, he, v, hcarries, -⟩
    · exact Or.inl hnet
    · exact Or.inr ⟨e, he, hcarries.1⟩

end Runlet.Ssrf
