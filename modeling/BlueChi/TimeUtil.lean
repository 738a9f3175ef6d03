import BlueChi.Library.Checked
import BlueChi.Agent.Connection

/-!
# Times

`timespec_to_micros`, through which every clock is read, and `usec_add`, with which the timers are
set. Each is written down twice: as the code computes it, and with checked operations, which have a
result only as long as nothing wraps.
-/

namespace BlueChi
namespace TimeUtil

open AgentLink (usecInfinity)

/-- A `struct timespec`; `time_t` and `long` have 64 bits. -/
structure Timespec where
  tvSec : Int64
  tvNsec : Int64

/-- `UINT64_MAX`. -/
def uint64Max : UInt64 := UInt64.ofNat (2 ^ 64 - 1)

/-- `USEC_PER_SEC`. -/
def usecPerSec : UInt64 := 1000000

/-- `NSEC_PER_USEC`. -/
def nsecPerUsec : Int64 := 1000

lemma uint64Max_toNat : uint64Max.toNat = 18446744073709551615 := by decide
lemma usecInfinity_toNat : usecInfinity.toNat = 18446744073709551615 := by decide
lemma usecPerSec_toNat : usecPerSec.toNat = 1000000 := by decide
lemma nsecPerUsec_toInt : nsecPerUsec.toInt = 1000 := by decide
lemma nsecPerUsec_toUInt64_toNat : nsecPerUsec.toUInt64.toNat = 1000 := by decide

/-- `timespec_to_micros`. -/
def timespecToMicros (ts : Timespec) : UInt64 :=
  if ts.tvSec < 0 ∨ ts.tvNsec < 0 then usecInfinity
  else if ts.tvSec.toUInt64 > (uint64Max - (ts.tvNsec / nsecPerUsec).toUInt64) / usecPerSec then
    usecInfinity
  else ts.tvSec.toUInt64 * usecPerSec + ts.tvNsec.toUInt64 / nsecPerUsec.toUInt64

/-- `timespec_to_micros` with checked operations. A quotient of unsigned numbers cannot wrap. -/
def timespecToMicrosChecked (ts : Timespec) : Option UInt64 := do
  if ts.tvSec < 0 ∨ ts.tvNsec < 0 then return usecInfinity
  let sec ← Checked.unsigned ts.tvSec
  let micros ← Checked.unsigned (← Checked.sdiv ts.tvNsec nsecPerUsec)
  let room ← Checked.sub uint64Max micros
  if sec > room / usecPerSec then return usecInfinity
  let product ← Checked.mul sec usecPerSec
  let nsec ← Checked.unsigned ts.tvNsec
  Checked.add product (nsec / nsecPerUsec.toUInt64)

/-- `usec_add`. -/
def usecAdd (a b : UInt64) : UInt64 := if a > uint64Max - b then uint64Max else a + b

/-- `usec_add` with checked operations. -/
def usecAddChecked (a b : UInt64) : Option UInt64 := do
  let room ← Checked.sub uint64Max b
  if a > room then return uint64Max
  Checked.add a b

/-- The exact time in microseconds, rounded down. -/
def Timespec.exactMicros (ts : Timespec) : ℤ := ts.tvSec.toInt * 10 ^ 6 + ts.tvNsec.toInt / 1000

/-- Neither field is negative. -/
def Timespec.Nonneg (ts : Timespec) : Prop := 0 ≤ ts.tvSec.toInt ∧ 0 ≤ ts.tvNsec.toInt

instance (ts : Timespec) : Decidable ts.Nonneg := inferInstanceAs (Decidable (_ ∧ _))

variable {ts : Timespec} {a b : UInt64}

lemma nonneg_iff (ts : Timespec) : ¬(ts.tvSec < 0 ∨ ts.tvNsec < 0) ↔ ts.Nonneg := by
  rw [not_or, Int64.lt_iff_toInt_lt, Int64.lt_iff_toInt_lt, Int64.toInt_zero, Int.not_lt, Int.not_lt]
  exact Iff.rfl

/-- The values that the code computes for fields that are not negative: no step of the guard wraps,
and the guard stops the times that do not fit. -/
structure Computed (ts : Timespec) : Prop where
  sec : Checked.unsigned ts.tvSec = some ts.tvSec.toUInt64
  quotient : Checked.sdiv ts.tvNsec nsecPerUsec = some (ts.tvNsec / nsecPerUsec)
  micros : Checked.unsigned (ts.tvNsec / nsecPerUsec) = some (ts.tvNsec / nsecPerUsec).toUInt64
  room : Checked.sub uint64Max (ts.tvNsec / nsecPerUsec).toUInt64 =
    some (uint64Max - (ts.tvNsec / nsecPerUsec).toUInt64)
  nsec : Checked.unsigned ts.tvNsec = some ts.tvNsec.toUInt64
  guard : ts.tvSec.toUInt64 > (uint64Max - (ts.tvNsec / nsecPerUsec).toUInt64) / usecPerSec ↔
    2 ^ 64 ≤ ts.exactMicros
  product : ts.exactMicros < 2 ^ 64 →
    Checked.mul ts.tvSec.toUInt64 usecPerSec = some (ts.tvSec.toUInt64 * usecPerSec)
  sum : ts.exactMicros < 2 ^ 64 →
    Checked.add (ts.tvSec.toUInt64 * usecPerSec) (ts.tvNsec.toUInt64 / nsecPerUsec.toUInt64) =
        some (ts.tvSec.toUInt64 * usecPerSec + ts.tvNsec.toUInt64 / nsecPerUsec.toUInt64) ∧
      ((ts.tvSec.toUInt64 * usecPerSec + ts.tvNsec.toUInt64 / nsecPerUsec.toUInt64).toNat : ℤ) =
        ts.exactMicros

lemma computed_of_nonneg (h : ts.Nonneg) : Computed ts := by
  have ⟨hsecNonneg, hnsecNonneg⟩ := h
  have ⟨hsec, hsecVal⟩ := Checked.unsigned_of_nonneg hsecNonneg
  have ⟨hnsec, hnsecVal⟩ := Checked.unsigned_of_nonneg hnsecNonneg
  have hposDivisor : 0 < nsecPerUsec.toInt := by decide
  have ⟨hquotient, hquotientVal⟩ := Checked.sdiv_of_pos hnsecNonneg hposDivisor
  rw [nsecPerUsec_toInt] at hquotientVal
  have hquotientNonneg : 0 ≤ (ts.tvNsec / nsecPerUsec).toInt := by
    rw [hquotientVal]
    exact Int.ediv_nonneg hnsecNonneg (by decide)
  have ⟨hmicros, hmicrosVal⟩ := Checked.unsigned_of_nonneg hquotientNonneg
  rw [hquotientVal] at hmicrosVal
  have hnsecLt : ts.tvNsec.toInt < 9223372036854775808 := ts.tvNsec.toInt_lt
  have hfits : (ts.tvNsec / nsecPerUsec).toUInt64.toNat ≤ uint64Max.toNat := by
    rw [uint64Max_toNat]
    omega
  have ⟨hroom, hroomVal⟩ := Checked.sub_of_le hfits
  rw [uint64Max_toNat] at hroomVal
  have hexact : ts.exactMicros = ts.tvSec.toInt * 1000000 + ts.tvNsec.toInt / 1000 := rfl
  have hguard : ts.tvSec.toUInt64 > (uint64Max - (ts.tvNsec / nsecPerUsec).toUInt64) / usecPerSec ↔
      2 ^ 64 ≤ ts.exactMicros := by
    rw [gt_iff_lt, UInt64.lt_iff_toNat_lt, UInt64.toNat_div, hroomVal, usecPerSec_toNat, hexact]
    omega
  have hproduct : ts.exactMicros < 2 ^ 64 → ts.tvSec.toUInt64.toNat * usecPerSec.toNat < 2 ^ 64 := by
    intro hlt
    rw [hexact] at hlt
    rw [usecPerSec_toNat]
    omega
  refine ⟨hsec, hquotient, hmicros, hroom, hnsec, hguard, fun hlt => ?_, fun hlt => ?_⟩
  · exact (Checked.mul_of_lt (hproduct hlt)).1
  · have hproductVal := (Checked.mul_of_lt (hproduct hlt)).2
    have hrest : (ts.tvNsec.toUInt64 / nsecPerUsec.toUInt64).toNat = ts.tvNsec.toUInt64.toNat / 1000 := by
      rw [UInt64.toNat_div, nsecPerUsec_toUInt64_toNat]
    rw [usecPerSec_toNat] at hproductVal
    rw [hexact] at hlt
    have ⟨hsum, hsumVal⟩ := Checked.add_of_lt (a := ts.tvSec.toUInt64 * usecPerSec)
      (b := ts.tvNsec.toUInt64 / nsecPerUsec.toUInt64) (by rw [hproductVal, hrest]; omega)
    refine ⟨hsum, ?_⟩
    rw [hsumVal, hproductVal, hrest, hexact]
    omega

/-- A time is exact where it is not negative and fits in 64 bits, and `USEC_INFINITY` elsewhere. No
step of its computation wraps. -/
lemma timespecToMicros_spec (ts : Timespec) :
    ((timespecToMicros ts).toNat : ℤ) =
        (if ts.Nonneg ∧ ts.exactMicros < 2 ^ 64 then ts.exactMicros else 2 ^ 64 - 1) ∧
      timespecToMicrosChecked ts = some (timespecToMicros ts) := by
  unfold timespecToMicros timespecToMicrosChecked
  by_cases hneg : ts.tvSec < 0 ∨ ts.tvNsec < 0
  · have hnot : ¬(ts.Nonneg ∧ ts.exactMicros < 2 ^ 64) := fun h => (nonneg_iff ts).mpr h.1 hneg
    rw [if_pos hneg, if_pos hneg, if_neg hnot, usecInfinity_toNat]
    exact ⟨by omega, rfl⟩
  · have hnonneg : ts.Nonneg := (nonneg_iff ts).mp hneg
    have h := computed_of_nonneg hnonneg
    simp only [Option.bind_eq_bind]
    rw [if_neg hneg, if_neg hneg, h.sec, Option.bind_some, h.quotient, Option.bind_some, h.micros,
      Option.bind_some, h.room, Option.bind_some]
    by_cases hlarge : 2 ^ 64 ≤ ts.exactMicros
    · have hnot : ¬(ts.Nonneg ∧ ts.exactMicros < 2 ^ 64) := fun hlt => absurd hlt.2 (by omega)
      rw [if_pos (h.guard.mpr hlarge), if_pos (h.guard.mpr hlarge), if_neg hnot, usecInfinity_toNat]
      exact ⟨by omega, rfl⟩
    · have hlt : ts.exactMicros < 2 ^ 64 := by omega
      have ⟨hsum, hval⟩ := h.sum hlt
      rw [if_neg (fun hc => hlarge (h.guard.mp hc)), if_neg (fun hc => hlarge (h.guard.mp hc)),
        if_pos ⟨hnonneg, hlt⟩, h.product hlt, Option.bind_some, h.nsec, Option.bind_some]
      exact ⟨hval, hsum⟩

/-- The last times that fit, and the first that does not. -/
example : timespecToMicros ⟨18446744073709, 551614999⟩ = 18446744073709551614 ∧
    timespecToMicros ⟨18446744073709, 551615000⟩ = 18446744073709551615 ∧
    timespecToMicrosChecked ⟨18446744073709, 551616000⟩ = some usecInfinity := by decide +kernel

/-- A timer is set to the sum, or as late as can be. No step of the computation wraps. -/
lemma usecAdd_spec (a b : UInt64) :
    (usecAdd a b).toNat = min (a.toNat + b.toNat) (2 ^ 64 - 1) ∧
      usecAddChecked a b = some (usecAdd a b) := by
  have ha : a.toNat < 18446744073709551616 := a.toNat_lt
  have hb : b.toNat < 18446744073709551616 := b.toNat_lt
  have hle : b.toNat ≤ uint64Max.toNat := by
    rw [uint64Max_toNat]
    omega
  have ⟨hroom, hroomVal⟩ := Checked.sub_of_le hle
  rw [uint64Max_toNat] at hroomVal
  have hguard : a > uint64Max - b ↔ 2 ^ 64 ≤ a.toNat + b.toNat := by
    rw [gt_iff_lt, UInt64.lt_iff_toNat_lt, hroomVal]
    omega
  unfold usecAdd usecAddChecked
  rw [hroom, Option.bind_eq_bind, Option.bind_some]
  by_cases hlarge : 2 ^ 64 ≤ a.toNat + b.toNat
  · rw [if_pos (hguard.mpr hlarge), if_pos (hguard.mpr hlarge), uint64Max_toNat]
    exact ⟨by omega, rfl⟩
  · have ⟨hsum, hsumVal⟩ := Checked.add_of_lt (Nat.not_le.mp hlarge)
    rw [if_neg (fun hc => hlarge (hguard.mp hc)), if_neg (fun hc => hlarge (hguard.mp hc)), hsumVal]
    exact ⟨by omega, hsum⟩

/-- Both conversions are exact or saturated, and nothing in them wraps. -/
theorem times_exact_or_saturated :
    (∀ ts : Timespec, ((timespecToMicros ts).toNat : ℤ) =
        (if ts.Nonneg ∧ ts.exactMicros < 2 ^ 64 then ts.exactMicros else usecInfinity.toNat) ∧
      timespecToMicrosChecked ts = some (timespecToMicros ts)) ∧
    ∀ a b : UInt64, (usecAdd a b).toNat = min (a.toNat + b.toNat) (2 ^ 64 - 1) ∧
      usecAddChecked a b = some (usecAdd a b) := by
  refine ⟨fun ts => ?_, usecAdd_spec⟩
  rw [usecInfinity_toNat]
  exact timespecToMicros_spec ts

end TimeUtil
end BlueChi
