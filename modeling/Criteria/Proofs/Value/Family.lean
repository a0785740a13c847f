import Criteria.Proofs.Calendar.Elapsed
import Criteria.Proofs.Value.Duality

/-!
# Families of values

Values that can be compared form a family, and every family has a scale: the integers,
the time gone by, texts as sequences of code points, the two truth values. What a value
stands for is a place on the scale of its family (`Value.standing?`). Doubles apart,
values are compared by these places, and values of two families not at all
(`Value.order_eq_standing`).
-/

namespace Criteria

/-- Kinds of values among which there is an order. -/
inductive Family where
  | integer
  | temporal
  | text
  | variant
  | truth
deriving DecidableEq

namespace Family

/-- What the values of a family are measured by. Texts are sequences of code points. -/
abbrev Scale : Family → Type
  | integer | temporal => Int
  | text | variant => List Nat
  | truth => Bool

instance (f : Family) : Ord f.Scale :=
  match f with
  | integer | temporal => inferInstanceAs (Ord Int)
  | text | variant => inferInstanceAs (Ord (List Nat))
  | truth => inferInstanceAs (Ord Bool)

instance (f : Family) : Std.TransOrd f.Scale := by
  cases f with
  | integer | temporal => exact inferInstanceAs (Std.TransOrd Int)
  | text | variant => exact inferInstanceAs (Std.TransOrd (List Nat))
  | truth => exact inferInstanceAs (Std.TransOrd Bool)

instance (f : Family) : Std.LawfulEqOrd f.Scale := by
  cases f with
  | integer | temporal => exact inferInstanceAs (Std.LawfulEqOrd Int)
  | text | variant => exact inferInstanceAs (Std.LawfulEqOrd (List Nat))
  | truth => exact inferInstanceAs (Std.LawfulEqOrd Bool)

end Family

/-- A place on the scale of a family. -/
structure Standing where
  family : Family
  place : family.Scale

namespace Standing

/-- Places of one family are compared on its scale. -/
def order (r s : Standing) : Option Ordering :=
  if h : r.family = s.family then some (compare (h ▸ r.place) s.place) else none

variable {r s t : Standing}

theorem order_mk (f : Family) (p q : f.Scale) : order ⟨f, p⟩ ⟨f, q⟩ = some (compare p q) :=
  dif_pos rfl

theorem isSome_order_iff : (r.order s).isSome = true ↔ r.family = s.family := by
  unfold order
  split
  · rename_i h
    exact iff_of_true rfl h
  · rename_i h
    exact iff_of_false Bool.false_ne_true h

theorem family_eq_of_any_order {test : Ordering → Bool} (h : (r.order s).any test = true) :
    r.family = s.family := by
  apply isSome_order_iff.mp
  cases hrs : r.order s with
  | none => rw [hrs] at h; cases h
  | some o => rfl

theorem order_eq_level_iff : r.order s = some .eq ↔ r = s := by
  obtain ⟨f, p⟩ := r
  obtain ⟨g, q⟩ := s
  constructor
  · intro h
    obtain rfl : f = g := isSome_order_iff.mp (Option.isSome_of_eq_some h)
    rw [order_mk, Option.some_inj] at h
    rw [Std.LawfulEqOrd.eq_of_compare h]
  · intro h
    obtain ⟨rfl, hplace⟩ := Standing.mk.inj h
    obtain rfl := eq_of_heq hplace
    rw [order_mk, Std.ReflOrd.compare_self]

theorem any_isLE_trans (hrs : (r.order s).any Ordering.isLE = true)
    (hst : (s.order t).any Ordering.isLE = true) : (r.order t).any Ordering.isLE = true := by
  obtain ⟨f, p⟩ := r
  obtain ⟨g, q⟩ := s
  obtain ⟨k, u⟩ := t
  obtain rfl : f = g := family_eq_of_any_order hrs
  obtain rfl : f = k := family_eq_of_any_order hst
  rw [order_mk, Option.any_some] at *
  exact Std.TransOrd.isLE_trans hrs hst

theorem any_isLE_total (h : r.family = s.family) :
    (r.order s).any Ordering.isLE = true ∨ (s.order r).any Ordering.isLE = true := by
  obtain ⟨f, p⟩ := r
  obtain ⟨g, q⟩ := s
  obtain rfl : f = g := h
  rw [order_mk, order_mk, Option.any_some, Option.any_some, Std.OrientedOrd.eq_swap (a := q)]
  cases compare p q with
  | gt => exact Or.inr rfl
  | _ => exact Or.inl rfl

end Standing

/-- The code points of a text. -/
def codePoints (s : String) : List Nat := s.toList.map Char.toNat

theorem compare_map_toNat_eq_lt_iff : ∀ xs ys : List Char,
    compare (xs.map Char.toNat) (ys.map Char.toNat) = .lt ↔ xs < ys
  | [], [] => by simp
  | [], _ :: _ => by simp [List.compare_nil_cons]
  | _ :: _, [] => by simp [List.compare_cons_nil]
  | x :: xs, y :: ys => by
      rw [List.map_cons, List.map_cons, List.compare_cons_cons, Ordering.then_eq_lt,
        Nat.compare_eq_lt, Nat.compare_eq_eq, compare_map_toNat_eq_lt_iff xs ys,
        List.cons_lt_cons_iff, Char.toNat_inj]
      rfl

theorem compare_codePoints_of_lt {s t : String} (h : compare s t = .lt) :
    compare (codePoints s) (codePoints t) = .lt := by
  rw [codePoints, codePoints, compare_map_toNat_eq_lt_iff, ← String.lt_iff]
  exact compareOfLessAndEq_eq_lt.mp h

/-- Texts are compared by their code points. -/
theorem compare_codePoints (s t : String) : compare (codePoints s) (codePoints t) = compare s t := by
  cases h : compare s t with
  | lt => exact compare_codePoints_of_lt h
  | eq =>
      obtain rfl := Std.LawfulEqOrd.eq_of_compare h
      exact Std.ReflOrd.compare_self
  | gt =>
      rw [Std.OrientedOrd.eq_swap, compare_codePoints_of_lt (Std.OrientedCmp.lt_of_gt h)]
      rfl

namespace Value

/-- The family of a value. Null and lists have none, and doubles are in none of these. -/
def family? : Value → Option Family
  | int _ | uint _ => some .integer
  | date _ | timestamp _ => some .temporal
  | text _ => some .text
  | enum _ => some .variant
  | bool _ => some .truth
  | null | float _ | list _ => none

/-- The place of a value on the scale of its family; a date stands for its midnight. -/
def standing? : Value → Option Standing
  | int n => some ⟨.integer, n.toInt⟩
  | uint n => some ⟨.integer, (n.toNat : Int)⟩
  | date d => some ⟨.temporal, d.midnight.elapsed⟩
  | timestamp t => some ⟨.temporal, t.elapsed⟩
  | text s => some ⟨.text, codePoints s⟩
  | enum variant => some ⟨.variant, codePoints variant⟩
  | bool b => some ⟨.truth, b⟩
  | null | float _ | list _ => none

theorem map_family_standing? (v : Value) : v.standing?.map Standing.family = v.family? := by
  cases v <;> rfl

mutual

/-- There is no double in the value, at any depth. -/
def isFloatFree : Value → Bool
  | float _ => false
  | list members => areFloatFree members
  | _ => true

def areFloatFree : List Value → Bool
  | [] => true
  | v :: vs => v.isFloatFree && areFloatFree vs

end

variable {a b : Value}

/-- Doubles apart, values are compared by what they stand for. -/
theorem order_eq_standing (ha : a.isFloatFree = true) (hb : b.isFloatFree = true) :
    a.order b = a.standing?.bind fun r => b.standing?.bind fun s => r.order s := by
  cases a with
  | float _ => cases ha
  | null | list _ => cases b <;> rfl
  | int _ | uint _ =>
      cases b with
      | float _ => cases hb
      | _ => rfl
  | date d | timestamp d =>
      cases b with
      | date e | timestamp e => exact congrArg some (Timestamp.compare_elapsed _ _).symm
      | _ => rfl
  | text s =>
      cases b with
      | text t => exact congrArg some (compare_codePoints s t).symm
      | _ => rfl
  | enum s =>
      cases b with
      | enum t => exact congrArg some (compare_codePoints s t).symm
      | _ => rfl
  | bool _ => cases b <;> rfl

end Value

end Criteria
