import Mathlib.Tactic.Linarith
import Criteria.Proofs.Numeric.Reading

/-!
# Integers widen to the nearest double

`Double.ofInt` yields the double that stands for the number closest to an integer,
and of two equally close ones the one whose last fraction bit is zero
(`Double.isNearest_ofInt`). What comes closest among the doubles is first found among
the multiples of one step, the distance of neighbouring doubles around the integer.

That nothing is closer is also why widening keeps the order of integers
(`Double.key_ofInt_le`), although it may take different integers to one double.
-/

namespace Criteria.Double

/-- No multiple of the step is closer to the number than the given one, which is an
even one where another is as close. -/
structure IsNearestMultiple (s step n : Int) : Prop where
  le_distance : ∀ j : Int, |s * step - n| ≤ |j * step - n|
  even_of_tie : ∀ j : Int, j ≠ s → |j * step - n| = |s * step - n| → s % 2 = 0

/-- What is off by at most half a step is nearest. -/
theorem isNearestMultiple_of_error {s step n : Int} (hstep : 0 < step)
    (herror : 2 * |s * step - n| ≤ step) (htie : 2 * |s * step - n| = step → s % 2 = 0) :
    IsNearestMultiple s step n := by
  -- Another multiple is at least one step away from this one.
  have hother : ∀ j : Int, j ≠ s → step ≤ |s * step - n| + |j * step - n| := by
    intro j hj
    have hapart : 1 ≤ |j - s| := Int.one_le_abs (sub_ne_zero.mpr hj)
    calc step ≤ |j - s| * step := le_mul_of_one_le_left hstep.le hapart
      _ = |j * step - s * step| := by rw [← sub_mul, abs_mul, abs_of_pos hstep]
      _ ≤ |j * step - n| + |n - s * step| := abs_sub_le _ n _
      _ = |s * step - n| + |j * step - n| := by rw [abs_sub_comm n, add_comm]
  constructor
  · intro j
    by_cases hj : j = s
    · rw [hj]
    · have := hother j hj
      omega
  · intro j hj hequal
    have := hother j hj
    exact htie (by omega)

theorem isNearestMultiple_self (s step : Int) (hstep : 0 < step) :
    IsNearestMultiple s step (s * step) := by
  apply isNearestMultiple_of_error hstep
  · simpa using hstep.le
  · intro h
    simp at h
    omega

theorem roundShift_eq (n k : Nat) :
    roundShift n k =
      if 2 * (n % 2 ^ k) < 2 ^ k then n / 2 ^ k
      else if 2 ^ k < 2 * (n % 2 ^ k) then n / 2 ^ k + 1
      else n / 2 ^ k + n / 2 ^ k % 2 := rfl

/-- Rounding to even finds the nearest multiple of a power of two. -/
theorem isNearestMultiple_roundShift (n k : Nat) :
    IsNearestMultiple (roundShift n k) (2 ^ k) n := by
  have hpos : 0 < 2 ^ k := Nat.two_pow_pos k
  have hcast : (2 : Int) ^ k = ((2 ^ k : Nat) : Int) := (Nat.cast_pow 2 k).symm
  rw [roundShift_eq, hcast]
  generalize 2 ^ k = step at hpos ⊢
  have hlt : n % step < step := Nat.mod_lt n hpos
  have hn : n / step * step + n % step = n := Nat.div_add_mod' n step
  generalize n / step = q at hn ⊢
  generalize n % step = r at hlt hn ⊢
  have hdown : |(q : Int) * step - n| = r := by
    have herror : (q : Int) * step - n = -r := by rw [← hn]; push_cast; ring
    rw [herror, abs_neg, Nat.abs_cast]
  have hup : |((q + 1 : Nat) : Int) * step - n| = step - r := by
    have herror : ((q + 1 : Nat) : Int) * step - n = step - r := by rw [← hn]; push_cast; ring
    rw [herror, abs_of_nonneg (by omega)]
  by_cases hbelow : 2 * r < step
  · rw [if_pos hbelow]
    apply isNearestMultiple_of_error (by omega) <;> rw [hdown] <;> omega
  · rw [if_neg hbelow]
    by_cases habove : step < 2 * r
    · rw [if_pos habove]
      apply isNearestMultiple_of_error (by omega) <;> rw [hup] <;> omega
    · rw [if_neg habove]
      -- Halfway between two multiples the even one is taken.
      rcases Nat.mod_two_eq_zero_or_one q with heven | hodd
      · rw [heven, Nat.add_zero]
        apply isNearestMultiple_of_error (by omega) <;> rw [hdown] <;> omega
      · rw [hodd]
        apply isNearestMultiple_of_error (by omega) <;> rw [hup] <;> omega

theorem roundShift_bounds (n k : Nat) :
    n / 2 ^ k ≤ roundShift n k ∧ roundShift n k ≤ n / 2 ^ k + 1 := by
  rw [roundShift_eq]
  split
  · omega
  · split <;> omega

theorem IsNearestMultiple.scale {s step n : Int} (h : IsNearestMultiple s step n) {c : Int}
    (hc : 0 < c) : IsNearestMultiple s (step * c) (n * c) := by
  have hscale : ∀ j : Int, |j * (step * c) - n * c| = |j * step - n| * c := by
    intro j
    rw [← mul_assoc, ← sub_mul, abs_mul, abs_of_pos hc]
  constructor
  · intro j
    rw [hscale, hscale]
    exact mul_le_mul_of_nonneg_right (h.le_distance j) hc.le
  · intro j hj hequal
    rw [hscale, hscale] at hequal
    exact h.even_of_tie j hj (mul_right_cancel₀ hc.ne' hequal)

/-- The significand of the double that is nearest to a positive number, scaled to 53
bits. -/
def significand (n : Nat) : Nat :=
  if n.log2 ≤ 52 then n * 2 ^ (52 - n.log2) else roundShift n (n.log2 - 52)

theorem bitsOfPos_eq (n : Nat) :
    bitsOfPos n = (n.log2 + 1022) * exponentWeight + significand n := rfl

/-- A number of at most 53 bits needs no rounding. -/
theorem significand_mul_of_log2_le {n : Nat} (hlog : n.log2 ≤ 52) :
    significand n * 2 ^ (n.log2 + 1022) = n * unitsOfOne := by
  have hpow : 2 ^ (52 - n.log2 + (n.log2 + 1022)) = 2 ^ 0 * unitsOfOne :=
    two_pow_eq_mul_unitsOfOne (by omega)
  rw [significand, if_pos hlog, Nat.mul_assoc, ← Nat.pow_add, hpow, Nat.pow_zero, Nat.one_mul]

/-- The significand counts steps between neighbouring doubles, and so many of them
come closest to the number. -/
theorem isNearestMultiple_significand (n : Nat) :
    IsNearestMultiple (significand n) (2 ^ (n.log2 + 1022)) (n * unitsOfOne) := by
  by_cases hlog : n.log2 ≤ 52
  · have hexact : (n : Int) * unitsOfOne = significand n * 2 ^ (n.log2 + 1022) := by
      exact_mod_cast (significand_mul_of_log2_le hlog).symm
    rw [hexact]
    exact isNearestMultiple_self _ _ (by positivity)
  · have hpow : (2 : Int) ^ (n.log2 + 1022) = 2 ^ (n.log2 - 52) * unitsOfOne := by
      exact_mod_cast two_pow_eq_mul_unitsOfOne (by omega)
    rw [significand, if_neg hlog, hpow]
    exact (isNearestMultiple_roundShift n _).scale (Int.natCast_pos.mpr unitsOfOne_pos)

theorem significand_bounds {n : Nat} (hn : n ≠ 0) :
    exponentWeight ≤ significand n ∧ significand n ≤ 2 * exponentWeight := by
  have hlower : 2 ^ n.log2 ≤ n := Nat.log2_self_le hn
  have hupper : n < 2 ^ (n.log2 + 1) := Nat.lt_log2_self
  unfold significand
  by_cases hlog : n.log2 ≤ 52
  · rw [if_pos hlog]
    have hpow : exponentWeight = 2 ^ n.log2 * 2 ^ (52 - n.log2) := by
      rw [← Nat.pow_add, Nat.add_sub_cancel' hlog]
      rfl
    rw [hpow, ← Nat.mul_assoc, ← Nat.pow_succ']
    exact ⟨Nat.mul_le_mul_right _ hlower, Nat.mul_le_mul_right _ hupper.le⟩
  · rw [if_neg hlog]
    have hpow : exponentWeight * 2 ^ (n.log2 - 52) = 2 ^ n.log2 := by
      have hlog' : n.log2 = 52 + (n.log2 - 52) := by omega
      rw [hlog', Nat.pow_add, Nat.add_sub_cancel_left]
      rfl
    have hstep : 0 < 2 ^ (n.log2 - 52) := Nat.two_pow_pos _
    have hq : exponentWeight ≤ n / 2 ^ (n.log2 - 52) := by
      rw [Nat.le_div_iff_mul_le hstep, hpow]
      exact hlower
    have hq' : n / 2 ^ (n.log2 - 52) < 2 * exponentWeight := by
      rw [Nat.div_lt_iff_lt_mul hstep, Nat.mul_assoc, hpow, ← Nat.pow_succ']
      exact hupper
    have hround := roundShift_bounds n (n.log2 - 52)
    omega

theorem units_bitsOfPos {n : Nat} (hn : n ≠ 0) :
    units (bitsOfPos n) = significand n * 2 ^ (n.log2 + 1022) := by
  obtain ⟨hlower, hupper⟩ := significand_bounds hn
  rw [bitsOfPos_eq]
  by_cases hcarry : significand n < 2 * exponentWeight
  · have hpattern : (n.log2 + 1022) * exponentWeight + significand n =
        (n.log2 + 1022 + 1) * exponentWeight + (significand n - exponentWeight) := by
      rw [Nat.succ_mul (n.log2 + 1022)]
      omega
    rw [hpattern, units_normal _ (by omega), Nat.add_sub_cancel' hlower]
  · -- A significand of 54 bits is the first one of the next exponent.
    have hfull : significand n = 2 * exponentWeight := by omega
    have hpattern : (n.log2 + 1022) * exponentWeight + 2 * exponentWeight =
        (n.log2 + 1022 + 1 + 1) * exponentWeight + 0 := by ring
    rw [hfull, hpattern, units_normal _ exponentWeight_pos, Nat.pow_succ', Nat.add_zero,
      ← Nat.mul_assoc, Nat.mul_comm exponentWeight]

/-- From an exponent on, doubles are multiples of one step; all others are smaller. -/
theorem signedUnits_lt_or_eq_mul (e : Nat) (k : Int) :
    signedUnits k < exponentWeight * 2 ^ e ∨ ∃ j : Int, signedUnits k = j * 2 ^ e := by
  by_cases hk : k < ((e + 1) * exponentWeight + 0 : Nat)
  · have hfirst : signedUnits ((e + 1) * exponentWeight + 0 : Nat) = exponentWeight * 2 ^ e := by
      rw [signedUnits_natCast, units_normal e exponentWeight_pos]
      push_cast
      rfl
    rw [← hfirst]
    exact Or.inl (strictMono_signedUnits hk)
  · obtain ⟨m, rfl⟩ := Int.eq_ofNat_of_zero_le (a := k) (by omega)
    have hm : (e + 1) * exponentWeight ≤ m := by omega
    rcases pattern_cases m with hsub | ⟨e', f, hf, rfl⟩
    · have hmul : exponentWeight ≤ (e + 1) * exponentWeight :=
        Nat.le_mul_of_pos_left exponentWeight (Nat.succ_pos e)
      omega
    · have hlt : (e + 1) * exponentWeight < (e' + 2) * exponentWeight := by
        rw [Nat.succ_mul (e' + 1)]
        omega
      have hle : e ≤ e' := by
        have := Nat.lt_of_mul_lt_mul_right hlt
        omega
      refine Or.inr ⟨(exponentWeight + f) * 2 ^ (e' - e), ?_⟩
      rw [signedUnits_natCast, units_normal e' hf, mul_assoc, ← pow_add, Nat.sub_add_cancel hle]
      push_cast
      rfl

/-- No key stands closer to the integer than the given one, which is even where
another one is as close. -/
structure IsNearestKey (k i : Int) : Prop where
  le_distance : ∀ l : Int,
    |signedUnits k - i * unitsOfOne| ≤ |signedUnits l - i * unitsOfOne|
  even_of_tie : ∀ l : Int, signedUnits l ≠ signedUnits k →
    |signedUnits l - i * unitsOfOne| = |signedUnits k - i * unitsOfOne| → k % 2 = 0

theorem isNearestKey_zero : IsNearestKey 0 0 := by
  constructor
  · intro l
    rw [zero_mul, sub_zero, sub_zero]
    exact abs_nonneg (signedUnits l)
  · intro l _ _
    rfl

theorem isNearestKey_bitsOfPos {n : Nat} (hn : n ≠ 0) : IsNearestKey (bitsOfPos n) n := by
  have hnearest := isNearestMultiple_significand n
  have hkey : signedUnits (bitsOfPos n) = significand n * 2 ^ (n.log2 + 1022) := by
    rw [signedUnits_natCast, units_bitsOfPos hn]
    push_cast
    rfl
  -- The number is at least the first double of its exponent, and so what is less than
  -- that double is farther away.
  have hfirst : (exponentWeight : Int) * 2 ^ (n.log2 + 1022) ≤ n * unitsOfOne := by
    have hpow : exponentWeight * 2 ^ (n.log2 + 1022) = 2 ^ n.log2 * unitsOfOne := by
      have hweight : exponentWeight = 2 ^ 52 := rfl
      rw [hweight, ← Nat.pow_add]
      exact two_pow_eq_mul_unitsOfOne (by omega)
    have hle := Nat.mul_le_mul_right unitsOfOne (Nat.log2_self_le hn)
    rw [← hpow] at hle
    exact_mod_cast hle
  have hfar : ∀ l : Int, signedUnits l < exponentWeight * 2 ^ (n.log2 + 1022) →
      |signedUnits (bitsOfPos n) - n * unitsOfOne| < |signedUnits l - n * unitsOfOne| := by
    intro l hl
    rw [hkey]
    apply (hnearest.le_distance exponentWeight).trans_lt
    rw [abs_of_nonpos (by omega), abs_of_nonpos (by omega)]
    omega
  constructor
  · intro l
    rcases signedUnits_lt_or_eq_mul (n.log2 + 1022) l with hl | ⟨j, hj⟩
    · exact (hfar l hl).le
    · rw [hkey, hj]
      exact hnearest.le_distance j
  · intro l hother htie
    rcases signedUnits_lt_or_eq_mul (n.log2 + 1022) l with hl | ⟨j, hj⟩
    · exact absurd htie.symm (hfar l hl).ne
    · rw [hkey, hj] at hother htie
      have heven := hnearest.even_of_tie j (fun h => hother (by rw [h])) htie
      have hweight : exponentWeight = 4503599627370496 := rfl
      rw [bitsOfPos_eq, hweight]
      omega

theorem signedUnits_neg (k : Int) : signedUnits (-k) = -signedUnits k := by
  unfold signedUnits
  rw [Int.natAbs_neg]
  rcases lt_trichotomy k 0 with hk | rfl | hk
  · rw [if_neg (by omega), if_pos hk, neg_neg]
  · simp [units_zero]
  · rw [if_pos (by omega), if_neg (by omega)]

theorem IsNearestKey.neg {k i : Int} (h : IsNearestKey k i) : IsNearestKey (-k) (-i) := by
  have hdistance : ∀ l : Int,
      |signedUnits l - -i * unitsOfOne| = |signedUnits (-l) - i * unitsOfOne| := by
    intro l
    rw [signedUnits_neg, ← abs_neg (-signedUnits l - _)]
    congr 1
    ring
  constructor
  · intro l
    rw [hdistance, hdistance, neg_neg]
    exact h.le_distance (-l)
  · intro l hother htie
    rw [hdistance, hdistance, neg_neg] at htie
    have hother' : signedUnits (-l) ≠ signedUnits k := by
      rw [signedUnits_neg] at hother ⊢
      omega
    have heven := h.even_of_tie (-l) hother' htie
    omega

/-- Widening stays far below the infinities. -/
theorem bitsOfPos_lt {n : Nat} (hn : n ≠ 0) (hlog : n.log2 < 1023) :
    bitsOfPos n < infinityBits := by
  have hupper := (significand_bounds hn).2
  have hweight : exponentWeight = 4503599627370496 := rfl
  have hinfinity : infinityBits = 2047 * 4503599627370496 := rfl
  rw [hweight] at hupper
  rw [bitsOfPos_eq, hweight, hinfinity]
  omega

theorem key_positive {m : Nat} (hm : m < signWeight) : key ⟨UInt64.ofNat m⟩ = m := by
  have hsign : signWeight = 9223372036854775808 := rfl
  have hbits : (UInt64.ofNat m).toNat = m := by
    rw [UInt64.toNat_ofNat']
    omega
  have hnegative : ¬ isNegative ⟨UInt64.ofNat m⟩ = true := by
    simp only [isNegative, hbits, decide_eq_true_eq]
    omega
  rw [key, if_neg hnegative, magnitude, hbits, Nat.mod_eq_of_lt hm]

theorem key_negative {m : Nat} (hm : m < signWeight) :
    key ⟨UInt64.ofNat (signWeight + m)⟩ = -(m : Int) := by
  have hsign : signWeight = 9223372036854775808 := rfl
  have hbits : (UInt64.ofNat (signWeight + m)).toNat = signWeight + m := by
    rw [UInt64.toNat_ofNat']
    omega
  have hnegative : isNegative ⟨UInt64.ofNat (signWeight + m)⟩ = true := by
    simp only [isNegative, hbits, decide_eq_true_eq]
    omega
  rw [key, if_pos hnegative, magnitude, hbits, Nat.add_mod_left, Nat.mod_eq_of_lt hm]

section

variable {i : Int} (hlog : i.natAbs.log2 < 1023)

include hlog

/-- The key of a widened integer is zero, the pattern of a positive number, or the
opposite of such a pattern. -/
theorem key_ofInt_cases {motive : Int → Int → Prop} (zero : motive 0 0)
    (positive : i ≠ 0 → motive (bitsOfPos i.natAbs) i.natAbs)
    (negative : ∀ k j, motive k j → motive (-k) (-j)) : motive (ofInt i).key i := by
  have hbound : i ≠ 0 → bitsOfPos i.natAbs < signWeight := by
    intro hi
    have hbits := bitsOfPos_lt (Int.natAbs_ne_zero.mpr hi) hlog
    have hinfinity : infinityBits < signWeight := by decide
    omega
  rcases lt_trichotomy i 0 with hi | rfl | hi
  · have hopposite := negative _ _ (positive hi.ne)
    rw [Int.ofNat_natAbs_of_nonpos hi.le, neg_neg] at hopposite
    rwa [ofInt, if_pos hi, key_negative (hbound hi.ne)]
  · exact zero
  · have hpattern := positive hi.ne'
    have hzero : ¬ i.natAbs = 0 := Int.natAbs_ne_zero.mpr hi.ne'
    rw [Int.natAbs_of_nonneg hi.le] at hpattern
    rwa [ofInt, if_neg hi.not_gt, ofNat, if_neg hzero, key_positive (hbound hi.ne')]

theorem isNearestKey_ofInt : IsNearestKey (ofInt i).key i := by
  apply key_ofInt_cases hlog
  · exact isNearestKey_zero
  · intro hi
    exact isNearestKey_bitsOfPos (Int.natAbs_ne_zero.mpr hi)
  · intro k j h
    exact h.neg

theorem isFinite_ofInt : (ofInt i).IsFinite := by
  rw [isFinite_iff]
  apply key_ofInt_cases hlog (motive := fun k _ => k.natAbs < infinityBits)
  · decide
  · intro hi
    exact bitsOfPos_lt (Int.natAbs_ne_zero.mpr hi) hlog
  · intro k _ h
    rwa [Int.natAbs_neg]

end

/-- No finite double is closer to the number than this one, whose last fraction bit is
zero where another one is as close. -/
structure IsNearest (x : Double) (q : ℚ) : Prop where
  isFinite : x.IsFinite
  le_distance : ∀ y : Double, y.IsFinite → |x.value - q| ≤ |y.value - q|
  even_of_tie : ∀ y : Double, y.IsFinite → y.value ≠ x.value →
    |y.value - q| = |x.value - q| → x.fraction % 2 = 0

theorem abs_value_sub (x : Double) (i : Int) :
    |x.value - i| = (|signedUnits x.key - i * unitsOfOne| : Int) / (unitsOfOne : ℚ) := by
  have hpos : (0 : ℚ) < unitsOfOne := Nat.cast_pos.mpr unitsOfOne_pos
  have hdistance : x.value - i = (signedUnits x.key - i * unitsOfOne : Int) / (unitsOfOne : ℚ) := by
    rw [value_eq_signedUnits, Int.cast_sub, Int.cast_mul, Int.cast_natCast, sub_div,
      mul_div_cancel_right₀ _ hpos.ne']
  rw [hdistance, abs_div, abs_of_pos hpos, Int.cast_abs]

/-- An integer widens to the nearest double, of two equally near ones to the even one. -/
theorem isNearest_ofInt {i : Int} (hlog : i.natAbs.log2 < 1023) : IsNearest (ofInt i) i := by
  have hpos : (0 : ℚ) < unitsOfOne := Nat.cast_pos.mpr unitsOfOne_pos
  have hnearest := isNearestKey_ofInt hlog
  refine ⟨isFinite_ofInt hlog, ?_, ?_⟩
  · intro y _
    rw [abs_value_sub, abs_value_sub, div_le_div_iff_of_pos_right hpos, Int.cast_le]
    exact hnearest.le_distance y.key
  · intro y _ hother htie
    rw [abs_value_sub, abs_value_sub, div_left_inj' hpos.ne', Int.cast_inj] at htie
    rw [value_eq_signedUnits, value_eq_signedUnits, Ne, div_left_inj' hpos.ne',
      Int.cast_inj] at hother
    have heven := hnearest.even_of_tie y.key hother htie
    have hweight : exponentWeight = 4503599627370496 := rfl
    have hmagnitude := natAbs_key (ofInt i)
    rw [fraction, hweight]
    omega

/-- What is nearest to the smaller of two numbers is not greater. -/
theorem IsNearest.value_le {x y : Double} {q r : ℚ} (hx : IsNearest x q) (hy : IsNearest y r)
    (h : q < r) : x.value ≤ y.value := by
  have hq := sq_le_sq.mpr (hx.le_distance y hy.isFinite)
  have hr := sq_le_sq.mpr (hy.le_distance x hx.isFinite)
  -- Otherwise both numbers lie in the middle of the two doubles, or on the wrong side.
  by_contra hlt
  rw [not_le] at hlt
  have hmiddle : x.value + y.value ≤ 2 * q := by nlinarith
  have hmiddle' : 2 * r ≤ x.value + y.value := by nlinarith
  linarith

theorem key_le_of_value_le {x y : Double} (h : x.value ≤ y.value) : x.key ≤ y.key := by
  have hpos : (0 : ℚ) < unitsOfOne := Nat.cast_pos.mpr unitsOfOne_pos
  rw [value_eq_signedUnits, value_eq_signedUnits, div_le_div_iff_of_pos_right hpos,
    Int.cast_le] at h
  exact strictMono_signedUnits.le_iff_le.mp h

/-- Widening keeps the order of integers. -/
theorem key_ofInt_le {m n : Int} (hm : m.natAbs.log2 < 1023) (hn : n.natAbs.log2 < 1023)
    (h : m ≤ n) : (ofInt m).key ≤ (ofInt n).key := by
  rcases h.eq_or_lt with rfl | hlt
  · exact le_refl _
  · have hcast : (m : ℚ) < n := Int.cast_lt.mpr hlt
    exact key_le_of_value_le ((isNearest_ofInt hm).value_le (isNearest_ofInt hn) hcast)

theorem units_bitsOfPos_of_le {n : Nat} (hn : n ≠ 0) (hle : n ≤ 2 ^ 53) :
    units (bitsOfPos n) = n * unitsOfOne := by
  rw [units_bitsOfPos hn]
  rcases hle.eq_or_lt with rfl | hlt
  · have hlog : Nat.log2 (2 ^ 53) = 53 := by decide
    have hsignificand : significand (2 ^ 53) = 2 ^ 52 := by decide
    rw [hsignificand, ← Nat.pow_add]
    exact two_pow_eq_mul_unitsOfOne (by rw [hlog])
  · exact significand_mul_of_log2_le (Nat.lt_succ_iff.mp ((Nat.log2_lt hn).mpr hlt))

theorem signedUnits_key_ofInt {i : Int} (hle : i.natAbs ≤ 2 ^ 53) :
    signedUnits (ofInt i).key = i * unitsOfOne := by
  have hlog : i.natAbs.log2 < 1023 := by
    by_cases hi : i.natAbs = 0
    · rw [hi]
      decide
    · have hlt : i.natAbs < 2 ^ 54 := by omega
      have := (Nat.log2_lt hi).mpr hlt
      omega
  apply key_ofInt_cases hlog (motive := fun k j => signedUnits k = j * unitsOfOne)
  · rw [zero_mul]
    rfl
  · intro hi
    rw [signedUnits_natCast, units_bitsOfPos_of_le (Int.natAbs_ne_zero.mpr hi) hle, Nat.cast_mul]
  · intro k j h
    rw [signedUnits_neg, h, neg_mul]

/-- Up to 53 bits an integer widens to a double that stands for it. -/
theorem value_ofInt {i : Int} (hle : i.natAbs ≤ 2 ^ 53) : (ofInt i).value = i := by
  have hpos : (0 : ℚ) < unitsOfOne := Nat.cast_pos.mpr unitsOfOne_pos
  rw [value_eq_signedUnits, signedUnits_key_ofInt hle, Int.cast_mul, Int.cast_natCast,
    mul_div_cancel_right₀ _ hpos.ne']

end Criteria.Double
