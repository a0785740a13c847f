import Mathlib.Algebra.Order.Field.Rat
import Mathlib.Algebra.Order.Ring.Rat
import Mathlib.Data.Int.ConditionallyCompleteOrder
import Mathlib.Data.Rat.Cast.Order
import Mathlib.Order.Compare
import Mathlib.Order.WithBot
import Mathlib.Tactic.FieldSimp
import Mathlib.Tactic.Positivity
import Mathlib.Tactic.Ring
import Criteria.Numeric.Double

/-!
# The numbers that doubles stand for

A pattern stands for a number by its sign, its exponent and its fraction, for an
infinity, or for nothing (`Double.reading?`). All finite doubles are multiples of the
least positive one, and how many of it they are grows with the pattern
(`Double.strictMono_units`). So the integer by which patterns are ordered orders the
numbers that they stand for (`Double.order_eq_cmp_reading`).
-/

namespace Criteria.Double

/-- The exponent bits. -/
def exponent (x : Double) : Nat := x.magnitude / exponentWeight

/-- The fraction bits. -/
def fraction (x : Double) : Nat := x.magnitude % exponentWeight

/-- Neither an infinity nor a NaN. -/
def IsFinite (x : Double) : Prop := x.magnitude < infinityBits

instance (x : Double) : Decidable x.IsFinite := inferInstanceAs (Decidable (_ < _))

/-- The number that a finite pattern stands for. The significand has a one in front
of its fraction, or a zero where all exponent bits are zero. -/
def value (x : Double) : ℚ :=
  let sign : ℚ := if x.isNegative then -1 else 1
  let fraction : ℚ := x.fraction / 2 ^ 52
  if x.exponent = 0 then sign * fraction * 2 ^ (-1022 : ℤ)
  else sign * (1 + fraction) * 2 ^ ((x.exponent : ℤ) - 1023)

/-- What a pattern stands for on the line with both infinities; a NaN stands for
nothing. -/
def reading? (x : Double) : Option (WithBot (WithTop ℚ)) :=
  if x.isNaN then none
  else if x.IsFinite then some (x.value : WithTop ℚ)
  else if x.isNegative then some ⊥
  else some ⊤

/-- How many times the least positive number a pattern without sign stands for. -/
def units (m : Nat) : Nat :=
  if m / exponentWeight = 0 then m % exponentWeight
  else (exponentWeight + m % exponentWeight) * 2 ^ (m / exponentWeight - 1)

/-- How many times the least positive number one is. -/
def unitsOfOne : Nat := 2 ^ 1074

theorem two_pow_eq_mul_unitsOfOne {e k : Nat} (he : e = k + 1074) :
    2 ^ e = 2 ^ k * unitsOfOne := by
  unfold unitsOfOne
  rw [← Nat.pow_add, he]

theorem unitsOfOne_pos : 0 < unitsOfOne := by
  unfold unitsOfOne
  positivity

theorem exponentWeight_pos : 0 < exponentWeight := by decide

theorem units_zero : units 0 = 0 := rfl

theorem units_subnormal {f : Nat} (hf : f < exponentWeight) : units f = f := by
  rw [units, Nat.div_eq_of_lt hf, if_pos rfl, Nat.mod_eq_of_lt hf]

theorem units_normal (e : Nat) {f : Nat} (hf : f < exponentWeight) :
    units ((e + 1) * exponentWeight + f) = (exponentWeight + f) * 2 ^ e := by
  have hdiv : ((e + 1) * exponentWeight + f) / exponentWeight = e + 1 := by
    rw [Nat.mul_comm, Nat.mul_add_div exponentWeight_pos, Nat.div_eq_of_lt hf, Nat.add_zero]
  have hmod : ((e + 1) * exponentWeight + f) % exponentWeight = f := by
    rw [Nat.mul_comm, Nat.mul_add_mod, Nat.mod_eq_of_lt hf]
  rw [units, hdiv, hmod, if_neg (Nat.succ_ne_zero e), Nat.add_sub_cancel]

/-- A pattern is below normal, or a fraction behind an exponent. -/
theorem pattern_cases (m : Nat) :
    m < exponentWeight ∨ ∃ e f, f < exponentWeight ∧ m = (e + 1) * exponentWeight + f := by
  have hsplit := Nat.div_add_mod' m exponentWeight
  cases he : m / exponentWeight with
  | zero => exact Or.inl (by simpa [exponentWeight_pos.ne'] using he)
  | succ e =>
      rw [he] at hsplit
      exact Or.inr ⟨e, m % exponentWeight, Nat.mod_lt m exponentWeight_pos, hsplit.symm⟩

/-- The next fraction is the next number, and behind the last fraction comes the
first one of the next exponent. -/
theorem units_lt_units_succ (m : Nat) : units m < units (m + 1) := by
  rcases pattern_cases m with hm | ⟨e, f, hf, rfl⟩
  · rw [units_subnormal hm]
    by_cases hlast : m + 1 < exponentWeight
    · rw [units_subnormal hlast]
      exact Nat.lt_succ_self m
    · have hnext : m + 1 = (0 + 1) * exponentWeight + 0 := by omega
      rw [hnext, units_normal 0 exponentWeight_pos]
      omega
  · have hpow : 0 < 2 ^ e := Nat.two_pow_pos e
    rw [units_normal e hf]
    by_cases hlast : f + 1 < exponentWeight
    · rw [Nat.add_assoc, units_normal e hlast]
      exact Nat.mul_lt_mul_of_pos_right (by omega) hpow
    · have hnext : (e + 1) * exponentWeight + f + 1 = (e + 1 + 1) * exponentWeight + 0 := by
        rw [Nat.succ_mul (e + 1)]
        omega
      rw [hnext, units_normal (e + 1) exponentWeight_pos, Nat.pow_succ', Nat.add_zero,
        ← Nat.mul_assoc]
      exact Nat.mul_lt_mul_of_pos_right (by omega) hpow

theorem strictMono_units : StrictMono units := strictMono_nat_of_lt_succ units_lt_units_succ

/-- Signed count of the least positive number, by the key of a pattern. -/
def signedUnits (k : Int) : Int := if k < 0 then -(units k.natAbs : Int) else units k.natAbs

theorem signedUnits_natCast (m : Nat) : signedUnits m = units m := by
  rw [signedUnits, if_neg (by omega), Int.natAbs_natCast]

theorem strictMono_signedUnits : StrictMono signedUnits := by
  intro k l hkl
  have hmono : ∀ m n, m < n → units m < units n := fun _ _ h => strictMono_units h
  unfold signedUnits
  by_cases hk : k < 0
  · rw [if_pos hk]
    by_cases hl : l < 0
    · rw [if_pos hl]
      have := hmono l.natAbs k.natAbs (by omega)
      omega
    · rw [if_neg hl]
      have := hmono 0 k.natAbs (by omega)
      rw [units_zero] at this
      omega
  · have hl : ¬ l < 0 := by omega
    rw [if_neg hk, if_neg hl]
    have := hmono k.natAbs l.natAbs (by omega)
    omega

theorem natAbs_key (x : Double) : x.key.natAbs = x.magnitude := by
  unfold key
  split
  · rw [Int.natAbs_neg, Int.natAbs_natCast]
  · rw [Int.natAbs_natCast]

theorem isFinite_iff (x : Double) : x.IsFinite ↔ x.key.natAbs < infinityBits := by
  rw [natAbs_key]
  rfl

theorem signedUnits_key (x : Double) :
    signedUnits x.key = if x.isNegative then -(units x.magnitude : Int) else units x.magnitude := by
  unfold signedUnits key
  by_cases hx : x.isNegative
  · rw [if_pos hx, if_pos hx, Int.natAbs_neg, Int.natAbs_natCast]
    by_cases hzero : x.magnitude = 0
    · simp [hzero, units_zero]
    · rw [if_pos (by omega)]
  · rw [if_neg hx, if_neg hx, Int.natAbs_natCast, if_neg (by omega)]

theorem units_magnitude_div (x : Double) :
    (units x.magnitude : ℚ) / unitsOfOne =
      if x.exponent = 0 then (x.fraction : ℚ) / 2 ^ 52 * 2 ^ (-1022 : ℤ)
      else (1 + (x.fraction : ℚ) / 2 ^ 52) * 2 ^ ((x.exponent : ℤ) - 1023) := by
  have hunits : units x.magnitude =
      if x.exponent = 0 then x.fraction
      else (exponentWeight + x.fraction) * 2 ^ (x.exponent - 1) := rfl
  have hweight : (exponentWeight : ℚ) = 2 ^ 52 := by norm_num [exponentWeight]
  have hscale : (unitsOfOne : ℚ) = 2 ^ 52 * 2 ^ 1022 := by
    rw [← pow_add, unitsOfOne, Nat.cast_pow]
    rfl
  rw [hunits, hscale]
  cases he : x.exponent with
  | zero =>
      rw [if_pos rfl, if_pos rfl, zpow_neg, div_mul_eq_div_div, div_eq_mul_inv]
      rfl
  | succ e =>
      have hpow : (2 : ℚ) ^ (((e + 1 : ℕ) : ℤ) - 1023) = 2 ^ e / 2 ^ 1022 := by
        have hexponent : ((e + 1 : ℕ) : ℤ) - 1023 = (e : ℤ) - (1022 : ℕ) := by push_cast; ring
        rw [hexponent, zpow_sub₀ two_ne_zero, zpow_natCast, zpow_natCast]
      rw [if_neg (Nat.succ_ne_zero e), if_neg (Nat.succ_ne_zero e), hpow, Nat.add_sub_cancel]
      push_cast
      rw [hweight]
      field_simp

/-- Every finite double is a multiple of the least positive one. -/
theorem value_eq_signedUnits (x : Double) : x.value = signedUnits x.key / unitsOfOne := by
  have hunits := units_magnitude_div x
  rw [signedUnits_key]
  unfold value
  by_cases hx : x.isNegative
  · rw [if_pos hx, if_pos hx]
    rw [Int.cast_neg, Int.cast_natCast, neg_div, hunits]
    split <;> ring
  · rw [if_neg hx, if_neg hx, Int.cast_natCast, hunits]
    split <;> ring

/-- The point of the line that a key stands for; the keys of the infinities and all
beyond them stand for its ends. -/
def point (k : Int) : WithBot (WithTop ℚ) :=
  if k ≤ -infinityBits then ⊥
  else if infinityBits ≤ k then ⊤
  else ((signedUnits k / unitsOfOne : ℚ) : WithTop ℚ)

theorem strictMonoOn_point : StrictMonoOn point (Set.Icc (-infinityBits) infinityBits) := by
  have hpos : (0 : Int) < infinityBits := by decide
  intro k hk l hl hkl
  obtain ⟨hk, hk'⟩ := hk
  obtain ⟨hl, hl'⟩ := hl
  have hkfin : ¬ (infinityBits : Int) ≤ k := by omega
  have hlfin : ¬ l ≤ -(infinityBits : Int) := by omega
  unfold point
  rw [if_neg hkfin, if_neg hlfin]
  by_cases hbot : k ≤ -infinityBits
  · rw [if_pos hbot]
    split
    · exact WithBot.bot_lt_coe _
    · exact WithBot.bot_lt_coe _
  · rw [if_neg hbot]
    by_cases htop : (infinityBits : Int) ≤ l
    · rw [if_pos htop]
      exact WithBot.coe_lt_coe.mpr (WithTop.coe_lt_top _)
    · rw [if_neg htop, WithBot.coe_lt_coe, WithTop.coe_lt_coe]
      have hunits : (signedUnits k : ℚ) < signedUnits l :=
        Int.cast_lt.mpr (strictMono_signedUnits hkl)
      exact div_lt_div_of_pos_right hunits (Nat.cast_pos.mpr unitsOfOne_pos)

theorem key_mem_of_isNaN {x : Double} (hx : x.isNaN = false) :
    x.key ∈ Set.Icc (-infinityBits : Int) infinityBits := by
  have hmagnitude : x.magnitude ≤ infinityBits := by simpa [isNaN] using hx
  unfold key
  split <;> constructor <;> omega

theorem reading?_eq (x : Double) :
    x.reading? = if x.isNaN then none else some (point x.key) := by
  have hpos : 0 < infinityBits := by decide
  unfold reading?
  by_cases hnan : x.isNaN
  · rw [if_pos hnan, if_pos hnan]
  · rw [if_neg hnan, if_neg hnan]
    have hmagnitude : x.magnitude ≤ infinityBits := by simpa [isNaN] using hnan
    unfold point
    by_cases hfinite : x.IsFinite
    · have hkey : -(infinityBits : Int) < x.key ∧ x.key < infinityBits := by
        unfold IsFinite at hfinite
        unfold key
        split <;> constructor <;> omega
      rw [if_pos hfinite, if_neg (by omega), if_neg (by omega), value_eq_signedUnits]
    · rw [if_neg hfinite]
      unfold IsFinite at hfinite
      by_cases hx : x.isNegative
      · have hkey : x.key ≤ -infinityBits := by rw [key, if_pos hx]; omega
        rw [if_pos hx, if_pos hkey]
      · have hkey : (infinityBits : Int) ≤ x.key := by rw [key, if_neg hx]; omega
        rw [if_neg hx, if_neg (by omega), if_pos hkey]

/-- The order of two patterns is that of what they stand for. -/
theorem order_eq_cmp_reading (x y : Double) :
    x.order y = x.reading?.bind fun r => y.reading?.map fun s => cmp r s := by
  rw [order, reading?_eq, reading?_eq]
  cases hx : x.isNaN with
  | true => rfl
  | false =>
      cases hy : y.isNaN with
      | true => rfl
      | false =>
          have hcmp := strictMonoOn_point.cmp_map_eq (key_mem_of_isNaN hx) (key_mem_of_isNaN hy)
          have hcompare : cmp (point x.key) (point y.key) = compare x.key y.key :=
            hcmp.trans (cmp_eq_compare x.key y.key)
          exact congrArg some hcompare.symm

end Criteria.Double
