/-
The arithmetic of `$sys.date` (`crates/runlet-core/src/sys.rs`): `add`, `diff`, `unix` and `iso`
on instants of both signs.

An instant is a count of epoch milliseconds in an `i64`. `diff` and `add` are exact where they
are not an error (`date_diff_eq`, `date_add_eq`). `unix` divides with `checked_div`, which
truncates toward zero, and `iso` prints the instant as it is; before the epoch the two name
different seconds, and `unix` does not move with whole seconds across it (`coherent_iff`).
-/
import Runlet.Sys

set_option autoImplicit false

namespace Runlet.Sys

open Result Runlet.Json

/-! ## 1. Numbers -/

/-- The range of an `i64`. -/
def InI64 (z : ℤ) : Prop := -2 ^ 63 ≤ z ∧ z < 2 ^ 63

theorem checked_i64_of_in {z : ℤ} (h : InI64 z) : checked_i64 z = some z := if_pos h

theorem checked_i64_of_not_in {z : ℤ} (h : ¬ InI64 z) : checked_i64 z = none := if_neg h

/-- A number that is read from a field is an `i64`: an integer out of the range is not read, and
neither is a float or anything else. -/
theorem field_i64_in {payload : Value} {key : String} {z : ℤ} (h : field_i64 payload key = .ok z) :
    InI64 z := by
  have hnum : ∀ n : Number, n.as_i64 = some z → InI64 z := by
    intro n hn
    cases n with
    | pos_int n =>
        rw [Number.as_i64, Option.ite_none_right_eq_some, Option.some.injEq] at hn
        obtain ⟨hlt, rfl⟩ := hn
        exact ⟨by omega, by omega⟩
    | neg_int n =>
        rw [Number.as_i64, Option.some.injEq] at hn
        rw [← hn]
        exact ⟨n.le_toInt, n.toInt_lt⟩
    | float bits => cases hn
  rw [field_i64] at h
  cases hfield : (payload.get_key key).bind Value.as_i64 with
  | none =>
      rw [hfield] at h
      cases h
  | some y =>
      rw [hfield] at h
      rw [Except.ok.inj h] at hfield
      obtain ⟨value, -, hvalue⟩ := Option.bind_eq_some_iff.mp hfield
      cases value with
      | number n => exact hnum n hvalue
      | null | bool _ | string _ | array _ | object _ => cases hvalue

/-- Division toward zero, by the floor. -/
theorem tdiv_thousand (a : ℤ) : a.tdiv 1000 = if 0 ≤ a then a / 1000 else -(-a / 1000) := by
  split
  · rename_i h
    exact Int.tdiv_eq_ediv_of_nonneg h
  · rename_i h
    rw [← Int.tdiv_eq_ediv_of_nonneg (by omega : 0 ≤ -a), Int.neg_tdiv, Int.neg_neg]

/-- It is the floor on what is not negative and on whole seconds. -/
theorem tdiv_eq_floor_iff (a : ℤ) : a.tdiv 1000 = a / 1000 ↔ 0 ≤ a ∨ 1000 ∣ a := by
  rw [tdiv_thousand]
  split
  · rename_i h
    exact iff_of_true rfl (Or.inl h)
  · omega

/-- It moves with whole seconds on either side of zero. -/
theorem tdiv_shift_iff (a k : ℤ) :
    (a + 1000 * k).tdiv 1000 = a.tdiv 1000 + k ↔ (0 ≤ a ↔ 0 ≤ a + 1000 * k) ∨ 1000 ∣ a := by
  rw [tdiv_thousand, tdiv_thousand]
  split
  · split
    · omega
    · omega
  · split
    · omega
    · omega

/-- A later millisecond is in no earlier second. -/
theorem tdiv_thousand_mono {a b : ℤ} (h : a ≤ b) : a.tdiv 1000 ≤ b.tdiv 1000 := by
  rw [tdiv_thousand, tdiv_thousand]
  split
  · split
    · omega
    · omega
  · split
    · omega
    · omega

/-- A second is an `i64` if its millisecond is. -/
theorem in_tdiv {a : ℤ} (h : InI64 a) : InI64 (a.tdiv 1000) := by
  rw [InI64] at h ⊢
  rw [tdiv_thousand]
  split
  · omega
  · omega

/-! ## 2. The operations -/

/-- The value is this integer. -/
def Gives (result : Except String Value) (z : ℤ) : Prop :=
  ∃ value, result = .ok value ∧ value.as_i64 = some z

/-- An `i64` is read as it was written. -/
theorem as_i64_of_i64 {z : ℤ} (h : InI64 z) : (of_i64 z).as_i64 = some z := by
  obtain ⟨hlow, hhigh⟩ := h
  rw [of_i64, Value.as_i64]
  split
  · rw [Number.as_i64, Int64.toInt_ofInt_of_le hlow hhigh]
  · have hnat : (UInt64.ofNat z.toNat).toNat = z.toNat := by
      rw [UInt64.toNat_ofNat', Nat.mod_eq_of_lt (by omega)]
    rw [Number.as_i64, hnat, if_pos (by omega), Int.toNat_of_nonneg (by omega)]

theorem as_i64_of_u64 {n : ℕ} (h : n < 2 ^ 63) : (of_u64 n).as_i64 = some (n : ℤ) := by
  have hnat : (UInt64.ofNat n).toNat = n := by
    rw [UInt64.toNat_ofNat', Nat.mod_eq_of_lt (by omega)]
  rw [of_u64, Value.as_i64, Number.as_i64, hnat, if_pos h]

theorem gives_of_i64 {z : ℤ} (h : InI64 z) : Gives (.ok (of_i64 z)) z :=
  ⟨_, rfl, as_i64_of_i64 h⟩

/-- A result is one number. -/
theorem gives_unique {result : Except String Value} {y z : ℤ} (hy : Gives result y)
    (hz : Gives result z) : y = z := by
  obtain ⟨value, rfl, hvalue⟩ := hy
  obtain ⟨value', hsame, hvalue'⟩ := hz
  rw [← Except.ok.inj hsame, hvalue, Option.some.injEq] at hvalue'
  exact hvalue'

theorem field_i64_of_gives {payload : Value} {key : String} {value : Value} {z : ℤ}
    (hkey : payload.get_key key = some value) (h : value.as_i64 = some z) :
    field_i64 payload key = .ok z := by
  rw [field_i64, hkey, Option.bind_some, h]

section
variable {payload : Value} {a b : ℤ}

/-- `add` is the sum, or an error where that is no `i64`. -/
theorem date_add_eq (ha : field_i64 payload "ms" = .ok a)
    (hb : field_i64 payload "delta_ms" = .ok b) :
    (InI64 (a + b) → date_add payload = .ok (of_i64 (a + b)))
      ∧ (¬ InI64 (a + b) → date_add payload = .error "date arithmetic overflow") := by
  unfold date_add
  rw [ha, ok_bind, hb, ok_bind]
  constructor
  · intro h
    rw [checked_i64_of_in h]
    rfl
  · intro h
    rw [checked_i64_of_not_in h]
    rfl

/-- `unix` never fails. -/
theorem date_unix_eq (ha : field_i64 payload "ms" = .ok a) :
    date_unix payload = .ok (of_i64 (a.tdiv 1000)) := by
  have hdiv : checked_div a MILLIS_PER_SECOND = some (a.tdiv 1000) :=
    checked_i64_of_in (in_tdiv (field_i64_in ha))
  unfold date_unix
  rw [ha, ok_bind, hdiv]
  rfl

theorem gives_date_unix (ha : field_i64 payload "ms" = .ok a) :
    Gives (date_unix payload) (a.tdiv 1000) := by
  rw [date_unix_eq ha]
  exact gives_of_i64 (in_tdiv (field_i64_in ha))

/-- The text of a date is the library's. -/
theorem date_iso_eq_ok {lib : SysLib} (ha : field_i64 payload "ms" = .ok a) {text : String} :
    date_iso lib payload = .ok (.string text) ↔ lib.to_rfc3339 a = some text := by
  unfold date_iso
  rw [ha, ok_bind]
  cases lib.to_rfc3339 a with
  | none => exact iff_of_false nofun nofun
  | some text' =>
      show Except.ok (Value.string text') = _ ↔ _
      simp

/-- What a difference says of itself. -/
structure Difference (value : Value) (total_ms total_seconds days hours minutes seconds : ℤ) :
    Prop where
  field_total_ms : field_i64 value "total_ms" = .ok total_ms
  field_total_seconds : field_i64 value "total_seconds" = .ok total_seconds
  field_days : field_i64 value "days" = .ok days
  field_hours : field_i64 value "hours" = .ok hours
  field_minutes : field_i64 value "minutes" = .ok minutes
  field_seconds : field_i64 value "seconds" = .ok seconds
  hours_range : 0 ≤ hours ∧ hours < 24
  minutes_range : 0 ≤ minutes ∧ minutes < 60
  seconds_range : 0 ≤ seconds ∧ seconds < 60
  days_range : 0 ≤ days
  recompose : days * 86400 + hours * 3600 + minutes * 60 + seconds = total_seconds.natAbs

/-- `diff` is the difference, split up, or an error where it is no `i64`. The days, hours, minutes
and seconds are the remainders, one behind the other. -/
theorem date_diff_eq (ha : field_i64 payload "a" = .ok a) (hb : field_i64 payload "b" = .ok b) :
    (InI64 (a - b) → ∃ value s d h m sec, date_diff payload = .ok value
        ∧ Difference value (a - b) s d h m sec)
      ∧ (¬ InI64 (a - b) → date_diff payload = .error "date diff overflow") := by
  unfold date_diff
  rw [ha, ok_bind, hb, ok_bind]
  constructor
  · intro h
    have hdiv : checked_div (a - b) MILLIS_PER_SECOND = some ((a - b).tdiv 1000) :=
      checked_i64_of_in (in_tdiv h)
    have hin := in_tdiv h
    have hsmall : ((a - b).tdiv 1000).natAbs < 2 ^ 63 := by
      rw [InI64] at h
      rw [tdiv_thousand]
      split
      · omega
      · omega
    have hms : ok_or (checked_i64 (a - b)) "date diff overflow" = .ok (a - b) := by
      rw [checked_i64_of_in h]
      rfl
    rw [hms, ok_bind, hdiv]
    set s := (a - b).tdiv 1000
    have hdays : s.natAbs / 86400 < 2 ^ 63 := by omega
    have hhours : s.natAbs % 86400 / 3600 < 2 ^ 63 := by omega
    have hminutes : s.natAbs % 86400 % 3600 / 60 < 2 ^ 63 := by omega
    have hseconds : s.natAbs % 86400 % 3600 % 60 < 2 ^ 63 := by omega
    refine ⟨_, s, (s.natAbs / 86400 : ℕ), (s.natAbs % 86400 / 3600 : ℕ),
      (s.natAbs % 86400 % 3600 / 60 : ℕ), (s.natAbs % 86400 % 3600 % 60 : ℕ), rfl, ?_⟩
    constructor
    · exact field_i64_of_gives rfl (as_i64_of_i64 h)
    · exact field_i64_of_gives rfl (as_i64_of_i64 hin)
    · exact field_i64_of_gives rfl (as_i64_of_u64 hdays)
    · exact field_i64_of_gives rfl (as_i64_of_u64 hhours)
    · exact field_i64_of_gives rfl (as_i64_of_u64 hminutes)
    · exact field_i64_of_gives rfl (as_i64_of_u64 hseconds)
    · omega
    · omega
    · omega
    · omega
    · omega
  · intro h
    rw [checked_i64_of_not_in h]
    rfl

end

/-! ## 3. Coherence -/

section
variable (lib : SysLib) (instant : String → Option ℤ)

/-- `iso` prints the exact instant: `instant` reads it back. -/
def PrintsExact : Prop := ∀ ms text, lib.to_rfc3339 ms = some text → instant text = some ms

/-- The laws that tie the operations together, at the instants `a` and `b` and a shift by `k`
seconds. Each is about results, and `diff` and `add` are errors just where the exact result is no
`i64`. -/
structure Coherent (a b k : ℤ) : Prop where
  diff : ∀ payload, field_i64 payload "a" = .ok a → field_i64 payload "b" = .ok b →
    (InI64 (a - b) → ∃ value s d h m sec, date_diff payload = .ok value
        ∧ Difference value (a - b) s d h m sec)
      ∧ (¬ InI64 (a - b) → ∃ err, date_diff payload = .error err)
  add : ∀ payload, field_i64 payload "ms" = .ok a → field_i64 payload "delta_ms" = .ok b →
    (InI64 (a + b) → Gives (date_add payload) (a + b))
      ∧ (¬ InI64 (a + b) → ∃ err, date_add payload = .error err)
  back : ∀ payload value total back, field_i64 payload "a" = .ok a → field_i64 payload "b" = .ok b →
    date_diff payload = .ok value → field_i64 value "total_ms" = .ok total →
    field_i64 back "ms" = .ok b → field_i64 back "delta_ms" = .ok total → Gives (date_add back) a
  monotone : a ≤ b → ∀ payload payload' u u', field_i64 payload "ms" = .ok a →
    field_i64 payload' "ms" = .ok b → Gives (date_unix payload) u → Gives (date_unix payload') u' →
    u ≤ u'
  shift : ∀ payload payload' u, field_i64 payload "ms" = .ok a →
    field_i64 payload' "ms" = .ok (a + 1000 * k) → Gives (date_unix payload) u →
    Gives (date_unix payload') (u + k)
  iso : ∀ payload text u, field_i64 payload "ms" = .ok a → date_iso lib payload = .ok (.string text) →
    Gives (date_unix payload) u → ∃ ms, instant text = some ms ∧ u = ms / 1000

end

/-- The request for an operation on one instant. -/
def at_ms (a : ℤ) : Value := .object [("ms", of_i64 a)]

theorem field_at_ms {a : ℤ} (h : InI64 a) : field_i64 (at_ms a) "ms" = .ok a :=
  field_i64_of_gives rfl (as_i64_of_i64 h)

section
variable {lib : SysLib} {instant : String → Option ℤ} {a b k : ℤ}

/-- Adding a difference goes back to where it was taken from. -/
theorem date_add_back (ha : InI64 a) {payload value back : Value} {total : ℤ}
    (hpa : field_i64 payload "a" = .ok a) (hpb : field_i64 payload "b" = .ok b)
    (hvalue : date_diff payload = .ok value) (htotal : field_i64 value "total_ms" = .ok total)
    (hbms : field_i64 back "ms" = .ok b) (hbdelta : field_i64 back "delta_ms" = .ok total) :
    Gives (date_add back) a := by
  obtain ⟨hok, herror⟩ := date_diff_eq hpa hpb
  by_cases hin : InI64 (a - b)
  · obtain ⟨value', s, d, h, m, sec, hvalue', hdiff⟩ := hok hin
    rw [hvalue, Except.ok.injEq] at hvalue'
    subst hvalue'
    rw [hdiff.field_total_ms, Except.ok.injEq] at htotal
    have hsum : b + total = a := by omega
    have hadd := (date_add_eq hbms hbdelta).1
    rw [hsum] at hadd
    rw [hadd ha]
    exact gives_of_i64 ha
  · rw [herror hin] at hvalue
    cases hvalue

/-- The laws hold where truncation is the floor on both sides of the shift and at the instant that
is printed. -/
theorem coherent_of (hexact : PrintsExact lib instant) (ha : InI64 a)
    (hshift : InI64 (a + 1000 * k) → (0 ≤ a ↔ 0 ≤ a + 1000 * k) ∨ 1000 ∣ a)
    (hiso : (lib.to_rfc3339 a).isSome → 0 ≤ a ∨ 1000 ∣ a) : Coherent lib instant a b k := by
  constructor
  · intro payload hpa hpb
    obtain ⟨hok, herror⟩ := date_diff_eq hpa hpb
    exact ⟨hok, fun h => ⟨_, herror h⟩⟩
  · intro payload hpa hpb
    obtain ⟨hok, herror⟩ := date_add_eq hpa hpb
    refine ⟨fun h => ?_, fun h => ⟨_, herror h⟩⟩
    rw [hok h]
    exact gives_of_i64 h
  · intro payload value total back hpa hpb hvalue htotal hbms hbdelta
    exact date_add_back ha hpa hpb hvalue htotal hbms hbdelta
  · intro hle payload payload' u u' hpa hpb hu hu'
    rw [gives_unique hu (gives_date_unix hpa), gives_unique hu' (gives_date_unix hpb)]
    exact tdiv_thousand_mono hle
  · intro payload payload' u hpa hpb hu
    rw [gives_unique hu (gives_date_unix hpa),
      ← (tdiv_shift_iff a k).mpr (hshift (field_i64_in hpb))]
    exact gives_date_unix hpb
  · intro payload text u hpa htext hu
    have hprint := (date_iso_eq_ok hpa).mp htext
    refine ⟨a, hexact a text hprint, ?_⟩
    rw [gives_unique hu (gives_date_unix hpa)]
    exact (tdiv_eq_floor_iff a).mpr (hiso (Option.isSome_iff_exists.mpr ⟨text, hprint⟩))

end

/-- The operations agree with each other iff the shift by whole seconds does not cross the epoch and
the instant that is printed is not before it, or the instant is a whole number of seconds. -/
theorem coherent_iff {lib : SysLib} {instant : String → Option ℤ} (hexact : PrintsExact lib instant)
    {a b k : ℤ} (ha : InI64 a) :
    Coherent lib instant a b k
      ↔ (InI64 (a + 1000 * k) → (0 ≤ a ↔ 0 ≤ a + 1000 * k) ∨ 1000 ∣ a)
        ∧ ((lib.to_rfc3339 a).isSome → 0 ≤ a ∨ 1000 ∣ a) := by
  refine ⟨fun h => ⟨fun hin => ?_, fun hsome => ?_⟩, fun h => coherent_of hexact ha h.1 h.2⟩
  · have hshift := h.shift (at_ms a) (at_ms (a + 1000 * k)) _ (field_at_ms ha) (field_at_ms hin)
      (gives_date_unix (field_at_ms ha))
    exact (tdiv_shift_iff a k).mp (gives_unique (gives_date_unix (field_at_ms hin)) hshift)
  · obtain ⟨text, htext⟩ := Option.isSome_iff_exists.mp hsome
    obtain ⟨ms, hms, hfloor⟩ := h.iso (at_ms a) text _ (field_at_ms ha)
      ((date_iso_eq_ok (field_at_ms ha)).mpr htext) (gives_date_unix (field_at_ms ha))
    rw [hexact a text htext, Option.some.injEq] at hms
    rw [← hms] at hfloor
    exact (tdiv_eq_floor_iff a).mp hfloor

/-- A calendar that knows two instants. -/
def two_instants : SysLib where
  __ := sign_lib
  to_rfc3339 := fun ms =>
    if ms = 1500 then some "1970-01-01T00:00:01.500Z"
    else if ms = -1 then some "1969-12-31T23:59:59.999Z"
    else none

def read_two (text : String) : Option ℤ :=
  if text = "1970-01-01T00:00:01.500Z" then some 1500
  else if text = "1969-12-31T23:59:59.999Z" then some (-1)
  else none

/-- A library that knows two instants, and reads what it prints of them. -/
theorem two_instants_exact : PrintsExact two_instants read_two := by
  intro ms text h
  have hms : ms = 1500 ∧ text = "1970-01-01T00:00:01.500Z"
      ∨ ms = -1 ∧ text = "1969-12-31T23:59:59.999Z" := by
    change (if ms = 1500 then _ else if ms = -1 then _ else none) = some text at h
    split at h
    · exact Or.inl ⟨‹_›, (Option.some.inj h).symm⟩
    · split at h
      · exact Or.inr ⟨‹_›, (Option.some.inj h).symm⟩
      · cases h
  rcases hms with ⟨rfl, rfl⟩ | ⟨rfl, rfl⟩
  · rfl
  · rfl

/-- An instant after the epoch, shifted by a second: the operations agree. -/
theorem coherent_after_epoch : Coherent two_instants read_two 1500 (-2500) 1 := by
  refine (coherent_iff two_instants_exact (by rw [InI64]; omega)).mpr ?_
  exact ⟨fun _ => Or.inl (by decide), fun _ => Or.inl (by decide)⟩

/-- The last millisecond before the epoch is in the second after it. -/
theorem incoherent_before_epoch : ¬ ∀ (lib : SysLib) (instant : String → Option ℤ),
    PrintsExact lib instant → ∀ a b k : ℤ, InI64 a → InI64 b → Coherent lib instant a b k := by
  intro hall
  have hin : InI64 (-1) := by
    rw [InI64]
    omega
  have hcoherent := hall two_instants read_two two_instants_exact (-1) (-1) 0 hin hin
  obtain ⟨ms, hms, hfloor⟩ := hcoherent.iso (at_ms (-1)) "1969-12-31T23:59:59.999Z" _
    (field_at_ms hin) ((date_iso_eq_ok (field_at_ms hin)).mpr rfl) (gives_date_unix (field_at_ms hin))
  rw [show read_two "1969-12-31T23:59:59.999Z" = some (-1) from rfl, Option.some.injEq] at hms
  rw [← hms] at hfloor
  exact absurd hfloor (by decide)

end Runlet.Sys
