import Mathlib.Algebra.Group.Nat.Defs

/-!
# Checked machine arithmetic

The operations on words of 64 bits, with no result where the exact one does not fit. A computation
written with them has a result exactly when none of its steps wraps.
-/

namespace Checked

/-- The sum of two words, if it is a word. -/
def add (a b : UInt64) : Option UInt64 :=
  if BitVec.uaddOverflow a.toBitVec b.toBitVec then none else some (a + b)

/-- The difference of two words, if it is a word. -/
def sub (a b : UInt64) : Option UInt64 :=
  if BitVec.usubOverflow a.toBitVec b.toBitVec then none else some (a - b)

/-- The product of two words, if it is a word. -/
def mul (a b : UInt64) : Option UInt64 :=
  if BitVec.umulOverflow a.toBitVec b.toBitVec then none else some (a * b)

/-- The quotient of two signed words, if it is one. -/
def sdiv (x y : Int64) : Option Int64 :=
  if y = 0 ∨ BitVec.sdivOverflow x.toBitVec y.toBitVec then none else some (x / y)

/-- A signed word as an unsigned one, if that is the same number. -/
def unsigned (x : Int64) : Option UInt64 := if x < 0 then none else some x.toUInt64

variable {a b : UInt64} {x y : Int64}

/-- A sum that fits does not wrap. -/
theorem add_of_lt (h : a.toNat + b.toNat < 2 ^ 64) :
    add a b = some (a + b) ∧ (a + b).toNat = a.toNat + b.toNat := by
  constructor
  · apply if_neg
    rw [BitVec.uaddOverflow, decide_eq_true_eq]
    exact Nat.not_le.mpr h
  · rw [UInt64.toNat_add]
    exact Nat.mod_eq_of_lt h

/-- A difference that is not negative does not wrap. -/
theorem sub_of_le (h : b.toNat ≤ a.toNat) :
    sub a b = some (a - b) ∧ (a - b).toNat = a.toNat - b.toNat := by
  constructor
  · apply if_neg
    rw [BitVec.usubOverflow, decide_eq_true_eq]
    exact Nat.not_lt.mpr h
  · exact UInt64.toNat_sub_of_le a b (UInt64.le_iff_toNat_le.mpr h)

/-- A product that fits does not wrap. -/
theorem mul_of_lt (h : a.toNat * b.toNat < 2 ^ 64) :
    mul a b = some (a * b) ∧ (a * b).toNat = a.toNat * b.toNat := by
  constructor
  · apply if_neg
    rw [BitVec.umulOverflow, decide_eq_true_eq]
    exact Nat.not_le.mpr h
  · rw [UInt64.toNat_mul]
    exact Nat.mod_eq_of_lt h

/-- Division by a positive number is exact, and rounds down what is not negative. -/
theorem sdiv_of_pos (hx : 0 ≤ x.toInt) (hy : 0 < y.toInt) :
    sdiv x y = some (x / y) ∧ (x / y).toInt = x.toInt / y.toInt := by
  have hzero : y ≠ 0 := fun h => by
    rw [h, Int64.toInt_zero] at hy
    exact absurd hy (by decide)
  have hone : y ≠ -1 := fun h => by
    rw [h] at hy
    exact absurd hy (by decide)
  constructor
  · apply if_neg
    intro h
    have hoverflow := h.resolve_left hzero
    rw [BitVec.sdivOverflow_eq] at hoverflow
    simp only [Bool.and_eq_true, decide_eq_true_eq] at hoverflow
    -- only the division of the least number by -1 overflows
    exact hone (Int64.toBitVec.inj hoverflow.2)
  · rw [Int64.toInt_div_of_ne_right x y hone, Int.tdiv_eq_ediv_of_nonneg hx]

/-- A number that is not negative stays the same. -/
theorem unsigned_of_nonneg (h : 0 ≤ x.toInt) :
    unsigned x = some x.toUInt64 ∧ (x.toUInt64.toNat : ℤ) = x.toInt := by
  have hx : 0 ≤ x := by
    rw [Int64.le_iff_toInt_le, Int64.toInt_zero]
    exact h
  constructor
  · apply if_neg
    rw [Int64.lt_iff_toInt_lt, Int64.toInt_zero]
    exact Int.not_lt.mpr h
  · rw [Int64.toNat_toUInt64_of_le hx, Int64.cast_toNatClampNeg x hx]

end Checked
