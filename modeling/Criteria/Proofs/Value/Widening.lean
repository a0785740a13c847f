import Criteria.Proofs.Numeric.Nearest
import Criteria.Proofs.Value.Duality

/-!
# Order of numbers of different families

Integers are compared exactly, and a number with a double by the nearest doubles. To
widen keeps the order, so that the comparisons of integers and those with doubles fit
together (`Value.order_trans_of_not_blurs`), with one exception: past 53 bits different
integers widen to one double, which is then level with either of them. Between such
integers the double is blurred (`Double.Blurs`), and only there the order is not
transitive.
-/

namespace Criteria

namespace Double

variable {x y z : Double}

theorem any_isLE_order_iff :
    (x.order y).any Ordering.isLE = true ↔
      x.isNaN = false ∧ y.isNaN = false ∧ x.key ≤ y.key := by
  rw [order]
  cases hx : x.isNaN <;> cases hy : y.isNaN <;> simp [Int.isLE_compare]

theorem order_eq_level_iff :
    x.order y = some .eq ↔ x.isNaN = false ∧ y.isNaN = false ∧ x.key = y.key := by
  rw [order]
  cases hx : x.isNaN <;> cases hy : y.isNaN <;> simp

theorem isNaN_of_isFinite (h : x.IsFinite) : x.isNaN = false :=
  decide_eq_false (Nat.lt_asymm h)

/-- The double is level with two different integers. -/
def Blurs (x : Double) (m n : Int) : Prop :=
  m ≠ n ∧ x.order (ofInt m) = some .eq ∧ x.order (ofInt n) = some .eq

instance (m n : Int) : Decidable (x.Blurs m n) := inferInstanceAs (Decidable (_ ∧ _))

/-- Integers of at most 53 bits are not blurred by any double. -/
theorem not_blurs_of_le {m n : Int} (hm : m.natAbs ≤ 2 ^ 53) (hn : n.natAbs ≤ 2 ^ 53) :
    ¬ x.Blurs m n := by
  rintro ⟨hother, hlevel, hlevel'⟩
  have hkey := (order_eq_level_iff.mp hlevel).2.2
  have hkey' := (order_eq_level_iff.mp hlevel').2.2
  have hvalue : (m : ℚ) = n := by
    rw [← value_ofInt hm, ← value_ofInt hn, value_eq_signedUnits, value_eq_signedUnits, ← hkey,
      hkey']
  exact hother (Int.cast_inj.mp hvalue)

end Double

namespace Value

variable {a b c : Value} {m n : Int} {x y z : Double}

theorem order_of_integer? (ha : a.integer? = some m) (hb : b.integer? = some n) :
    a.order b = some (compare m n) := by
  cases a with
  | int _ | uint _ =>
      cases b with
      | int _ | uint _ =>
          obtain rfl := Option.some.inj ha
          obtain rfl := Option.some.inj hb
          rfl
      | _ => cases hb
  | _ => cases ha

/-- With a double on one side numbers are compared by the nearest doubles. -/
theorem order_of_double? (ha : a.double? = some x) (hb : b.double? = some y)
    (hfloat : a.integer? = none ∨ b.integer? = none) : a.order b = x.order y := by
  cases a with
  | int _ | uint _ =>
      cases b with
      | int _ | uint _ => exact absurd hfloat (by simp [integer?])
      | float _ =>
          obtain rfl := Option.some.inj ha
          obtain rfl := Option.some.inj hb
          rfl
      | _ => cases hb
  | float _ =>
      cases b with
      | int _ | uint _ | float _ =>
          obtain rfl := Option.some.inj ha
          obtain rfl := Option.some.inj hb
          rfl
      | _ => cases hb
  | _ => cases ha

theorem double?_of_integer? (ha : a.integer? = some m) : a.double? = some (.ofInt m) := by
  cases a with
  | int _ | uint _ =>
      obtain rfl := Option.some.inj ha
      rfl
  | _ => cases ha

theorem eq_ofInt_of_integer? (hx : a.double? = some x) (ha : a.integer? = some m) :
    x = .ofInt m :=
  Option.some.inj (hx.symm.trans (double?_of_integer? ha))

theorem eq_float_of_double? (hx : a.double? = some x) (ha : a.integer? = none) : a = float x := by
  cases a with
  | float _ =>
      obtain rfl := Option.some.inj hx
      rfl
  | int _ | uint _ => cases ha
  | _ => cases hx

/-- Stored integers have at most 64 bits. -/
theorem log2_of_integer? (ha : a.integer? = some m) : m.natAbs.log2 < 1023 := by
  have hbits : m.natAbs < 2 ^ 64 := by
    cases a with
    | int k =>
        obtain rfl := Option.some.inj ha
        have := k.le_toInt
        have := k.toInt_lt
        omega
    | uint k =>
        obtain rfl := Option.some.inj ha
        exact k.toNat_lt
    | _ => cases ha
  by_cases hzero : m.natAbs = 0
  · rw [hzero]
    decide
  · have := (Nat.log2_lt hzero).mpr hbits
    omega

theorem exists_double?_of_isNumeric (ha : a.isNumeric = true) : ∃ x, a.double? = some x := by
  cases a with
  | int | uint | float => exact ⟨_, rfl⟩
  | _ => cases ha

/-- A double that is blurred between two integers. -/
def Blurs (b a c : Value) : Prop :=
  ∃ x m n, b = float x ∧ a.integer? = some m ∧ c.integer? = some n ∧ x.Blurs m n

theorem Blurs.symm (h : b.Blurs a c) : b.Blurs c a := by
  obtain ⟨x, m, n, hb, hm, hn, hother, hlevel, hlevel'⟩ := h
  exact ⟨x, n, m, hb, hn, hm, hother.symm, hlevel', hlevel⟩

/-- To widen both sides of a comparison keeps it, although it may lose strictness. -/
theorem any_isLE_widened (ha : a.double? = some x) (hb : b.double? = some y)
    (h : (a.order b).any Ordering.isLE = true) : (x.order y).any Ordering.isLE = true := by
  cases hm : a.integer? with
  | none => rwa [← order_of_double? ha hb (Or.inl hm)]
  | some m =>
      cases hn : b.integer? with
      | none => rwa [← order_of_double? ha hb (Or.inr hn)]
      | some n =>
          obtain rfl := eq_ofInt_of_integer? ha hm
          obtain rfl := eq_ofInt_of_integer? hb hn
          rw [order_of_integer? hm hn, Option.any_some, Int.isLE_compare] at h
          have hlog := log2_of_integer? hm
          have hlog' := log2_of_integer? hn
          exact Double.any_isLE_order_iff.mpr ⟨Double.isNaN_of_isFinite (Double.isFinite_ofInt hlog),
            Double.isNaN_of_isFinite (Double.isFinite_ofInt hlog'), Double.key_ofInt_le hlog hlog' h⟩

/-- The order of numbers is transitive where no double is blurred. -/
theorem any_isLE_trans (ha : a.isNumeric = true) (hb : b.isNumeric = true)
    (hc : c.isNumeric = true) (hblurs : ¬ b.Blurs a c)
    (hab : (a.order b).any Ordering.isLE = true) (hbc : (b.order c).any Ordering.isLE = true) :
    (a.order c).any Ordering.isLE = true := by
  obtain ⟨x, hx⟩ := exists_double?_of_isNumeric ha
  obtain ⟨y, hy⟩ := exists_double?_of_isNumeric hb
  obtain ⟨z, hz⟩ := exists_double?_of_isNumeric hc
  obtain ⟨hnan, hnan', hxy⟩ := Double.any_isLE_order_iff.mp (any_isLE_widened hx hy hab)
  obtain ⟨-, hnan'', hyz⟩ := Double.any_isLE_order_iff.mp (any_isLE_widened hy hz hbc)
  have hxz : (x.order z).any Ordering.isLE = true :=
    Double.any_isLE_order_iff.mpr ⟨hnan, hnan'', hxy.trans hyz⟩
  cases hm : a.integer? with
  | none => rwa [order_of_double? hx hz (Or.inl hm)]
  | some m =>
      cases hn : c.integer? with
      | none => rwa [order_of_double? hx hz (Or.inr hn)]
      | some n =>
          rw [order_of_integer? hm hn, Option.any_some, Int.isLE_compare]
          cases hk : b.integer? with
          | some k =>
              rw [order_of_integer? hm hk, Option.any_some, Int.isLE_compare] at hab
              rw [order_of_integer? hk hn, Option.any_some, Int.isLE_compare] at hbc
              exact hab.trans hbc
          | none =>
              -- Were the integers the other way round, so were their doubles, and the
              -- double in between would be level with both.
              by_contra hlt
              obtain rfl := eq_ofInt_of_integer? hx hm
              obtain rfl := eq_ofInt_of_integer? hz hn
              have hzx : (Double.ofInt n).key ≤ (Double.ofInt m).key :=
                Double.key_ofInt_le (log2_of_integer? hn) (log2_of_integer? hm) (by omega)
              exact hblurs ⟨y, m, n, eq_float_of_double? hy hk, hm, hn, by omega,
                Double.order_eq_level_iff.mpr ⟨hnan', hnan, by omega⟩,
                Double.order_eq_level_iff.mpr ⟨hnan', hnan'', by omega⟩⟩

/-- Values are level where neither is beyond the other. -/
theorem order_eq_level_iff :
    a.order b = some .eq ↔
      (a.order b).any Ordering.isLE = true ∧ (b.order a).any Ordering.isLE = true := by
  rw [order_swap a b]
  cases a.order b with
  | none => simp
  | some o => cases o <;> simp

theorem order_level_trans (ha : a.isNumeric = true) (hb : b.isNumeric = true)
    (hc : c.isNumeric = true) (hblurs : ¬ b.Blurs a c) (hab : a.order b = some .eq)
    (hbc : b.order c = some .eq) : a.order c = some .eq := by
  rw [order_eq_level_iff] at hab hbc ⊢
  constructor
  · exact any_isLE_trans ha hb hc hblurs hab.1 hbc.1
  · exact any_isLE_trans hc hb ha (fun h => hblurs h.symm) hbc.2 hab.2

/-- A blurred double is level with both integers, which are compared exactly. -/
theorem order_of_blurs (h : b.Blurs a c) :
    a.order b = some .eq ∧ b.order c = some .eq ∧
      ∃ m n, a.integer? = some m ∧ c.integer? = some n ∧ m ≠ n ∧
        a.order c = some (compare m n) := by
  obtain ⟨x, m, n, rfl, hm, hn, hother, hlevel, hlevel'⟩ := h
  have hfloat : (float x).double? = some x := rfl
  refine ⟨?_, ?_, m, n, hm, hn, hother, order_of_integer? hm hn⟩
  · rw [order_of_double? (double?_of_integer? hm) hfloat (Or.inr rfl), Double.order_swap x, hlevel]
    rfl
  · rwa [order_of_double? hfloat (double?_of_integer? hn) (Or.inl rfl)]

theorem agrees_iff_level (hb : b.isNumeric = true) : a.agrees b = true ↔ a.order b = some .eq := by
  have hkind : b.kind ≠ .set := by
    cases b <;> simp_all [isNumeric, kind]
  rw [agrees_eq_order hkind, beq_iff_eq]

/-- With a double on one side numbers are compared by what the nearest doubles stand
for. -/
theorem order_eq_cmp_reading (ha : a.double? = some x) (hb : b.double? = some y)
    (hfloat : a.integer? = none ∨ b.integer? = none) :
    a.order b = x.reading?.bind fun r => y.reading?.map fun s => cmp r s := by
  rw [order_of_double? ha hb hfloat]
  exact Double.order_eq_cmp_reading x y

theorem exists_isNearest_of_integer? (ha : a.integer? = some m) :
    ∃ x, a.double? = some x ∧ x.IsNearest m :=
  ⟨.ofInt m, double?_of_integer? ha, Double.isNearest_ofInt (log2_of_integer? ha)⟩

/-- Integers are compared exactly, and with a double on one side numbers are compared by
what the nearest doubles stand for. The order is transitive, level numbers are level
throughout, agreement is transitive, and a range that holds a number is no inverted one,
unless the number in the middle is a double that is blurred between the other two. Then
it is level with both, and they are compared exactly. Up to 53 bits no integers are
blurred. -/
theorem order_trans_of_not_blurs (ha : a.isNumeric = true) (hb : b.isNumeric = true)
    (hc : c.isNumeric = true) :
    ((∀ m n, a.integer? = some m → b.integer? = some n → a.order b = some (compare m n)) ∧
      (∀ m, a.integer? = some m → ∃ x, a.double? = some x ∧ x.IsNearest m) ∧
      ∀ x y, a.double? = some x → b.double? = some y → a.integer? = none ∨ b.integer? = none →
        a.order b = x.reading?.bind fun r => y.reading?.map fun s => cmp r s) ∧
    (¬ b.Blurs a c →
      ((a.order b).any Ordering.isLE = true → (b.order c).any Ordering.isLE = true →
        (a.order c).any Ordering.isLE = true) ∧
      (a.order b = some .eq → b.order c = some .eq → a.order c = some .eq) ∧
      (a.agrees b = true → b.agrees c = true → a.agrees c = true) ∧
      (b.isWithin a c = true → (a.order c).any Ordering.isLE = true)) ∧
    (b.Blurs a c →
      a.order b = some .eq ∧ b.order c = some .eq ∧
        ∃ m n, a.integer? = some m ∧ c.integer? = some n ∧ m ≠ n ∧
          a.order c = some (compare m n)) ∧
    ∀ m n, a.integer? = some m → c.integer? = some n → m.natAbs ≤ 2 ^ 53 → n.natAbs ≤ 2 ^ 53 →
      ¬ b.Blurs a c := by
  refine ⟨⟨fun _ _ => order_of_integer?, fun _ => exists_isNearest_of_integer?,
    fun _ _ => order_eq_cmp_reading⟩, fun hblurs => ⟨?_, ?_, ?_, ?_⟩, order_of_blurs, ?_⟩
  · exact any_isLE_trans ha hb hc hblurs
  · exact order_level_trans ha hb hc hblurs
  · rw [agrees_iff_level hb, agrees_iff_level hc, agrees_iff_level hc]
    exact order_level_trans ha hb hc hblurs
  · rw [isWithin_eq_any, any_isGE_order, Bool.and_eq_true]
    rintro ⟨hab, hbc⟩
    exact any_isLE_trans ha hb hc hblurs hab hbc
  · rintro m n hm hn hle hle' ⟨x, m', n', -, hm', hn', hblurs⟩
    obtain rfl := Option.some.inj (hm.symm.trans hm')
    obtain rfl := Option.some.inj (hn.symm.trans hn')
    exact Double.not_blurs_of_le hle hle' hblurs

/-- The middle double is level with the first integer although it does not stand for
it, and below the last one. -/
theorem order_trans_over_rounding :
    ¬ (float ⟨0x4340000000000000⟩).Blurs (int 9007199254740993) (uint 9007199254740995) ∧
      ((int 9007199254740993).order (float ⟨0x4340000000000000⟩)).any Ordering.isLE = true ∧
      ((float ⟨0x4340000000000000⟩).order (uint 9007199254740995)).any Ordering.isLE = true ∧
      ((int 9007199254740993).order (uint 9007199254740995)).any Ordering.isLE = true := by
  have hblurs :
      ¬ (float ⟨0x4340000000000000⟩).Blurs (int 9007199254740993) (uint 9007199254740995) := by
    rintro ⟨x, m, n, hx, hm, hn, h⟩
    obtain rfl := float.inj hx
    obtain rfl := Option.some.inj hm
    obtain rfl := Option.some.inj hn
    revert h
    decide
  have hab :
      ((int 9007199254740993).order (float ⟨0x4340000000000000⟩)).any Ordering.isLE = true := by
    decide
  have hbc :
      ((float ⟨0x4340000000000000⟩).order (uint 9007199254740995)).any Ordering.isLE = true := by
    decide
  exact ⟨hblurs, hab, hbc, ((order_trans_of_not_blurs rfl rfl rfl).2.1 hblurs).1 hab hbc⟩

/-- The least integer that is no double, the double that it widens to, and the integer
that this double stands for: the first two are level and so are the last two, but not
the integers. -/
theorem order_of_blurred_integers :
    (int 9007199254740993).order (float ⟨0x4340000000000000⟩) = some .eq ∧
      (float ⟨0x4340000000000000⟩).order (int 9007199254740992) = some .eq ∧
      (int 9007199254740993).order (int 9007199254740992) = some .gt := by
  decide

end Value

end Criteria
