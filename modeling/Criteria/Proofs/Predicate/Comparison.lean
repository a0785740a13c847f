import Criteria.Predicate.Evaluation
import Criteria.Proofs.Value.Duality

/-!
# Leaves that come down to comparisons

A range is a comparison at each of its ends, the ends being literals or stored values.
Membership of a single value is equality with one of the literals, and membership of a
list is membership of one of its members. Equality goes by agreement and the other
operators by order; against a literal that is no list both are the same question
(`CompareOp.holds_eq_any`), and there the operators fit together as on numbers. The
statement for all leaves is `Predicate.holds_eq_comparisons`.
-/

namespace Criteria

namespace CompareOp

variable {stored literal : Value}

/-- Against a literal that is no list every operator goes by the order. -/
theorem holds_eq_any (op : CompareOp) (h : literal.kind ≠ .set) :
    op.holds stored literal = (stored.order literal).any op.accepts := by
  cases op with
  | eq =>
      rw [holds, Value.agrees_eq_order h]
      cases stored.order literal <;> rfl
  | _ => rfl

theorem accepts_lte : lte.accepts = Ordering.isLE := by
  funext o
  cases o <;> rfl

theorem accepts_gte : gte.accepts = Ordering.isGE := by
  funext o
  cases o <;> rfl

theorem holds_lte_eq_any : lte.holds stored literal = (stored.order literal).any Ordering.isLE := by
  rw [← accepts_lte]
  rfl

theorem holds_gte_eq_any : gte.holds stored literal = (stored.order literal).any Ordering.isGE := by
  rw [← accepts_gte]
  rfl

end CompareOp

namespace Value

/-- Membership of a value that is no list. -/
theorem isOneOf_of_kind (values : List Value) {v : Value} (h : v.kind ≠ .set) :
    v.isOneOf values = values.any fun value => v.agrees value := by
  cases v with
  | list members => exact absurd rfl h
  | _ => rfl

theorem isOneOf_list (values members : List Value) :
    (list members).isOneOf values = members.any fun m => values.any fun value => m.agrees value :=
  rfl

@[simp] theorem isOneOf_null (values : List Value) : null.isOneOf values = false := by
  simp [isOneOf]

/-- Neither order nor repetition of the literals matters. -/
theorem isOneOf_congr {values values' : List Value} (h : ∀ v, v ∈ values ↔ v ∈ values') (v : Value) :
    v.isOneOf values = v.isOneOf values' := by
  have hany : ∀ test : Value → Bool, values.any test = values'.any test := by
    intro test
    rw [Bool.eq_iff_iff]
    simp only [List.any_eq_true, h]
  cases v <;> simp only [isOneOf, hany]

end Value

/-- A property that holds null is not there, and null passes no test. -/
theorem Row.any_get {row : Row} {ref : PropertyRef} {v : Value} (h : row ref = some v)
    {test : Value → Bool} (hnull : test .null = false) : (row.get ref).any test = test v := by
  rw [Row.get, h]
  cases v with
  | null => exact hnull.symm
  | _ => rfl

namespace Predicate

variable (d : Dialect) (row : Row) (expr : FieldExpr)

/-- A stored value lies in a range when it keeps to both ends. -/
theorem holds_between (lower upper : Value) :
    (between expr lower upper).holds d row =
      ((compare expr .gte lower).holds d row && (compare expr .lte upper).holds d row) := by
  rw [holds, holds, holds]
  cases expr.read d row with
  | none => rfl
  | some stored =>
      simp only [Option.any_some]
      rw [Value.isWithin_eq_any, CompareOp.holds_gte_eq_any, CompareOp.holds_lte_eq_any]

/-- A literal lies between two stored values when each of them is a bound of it. -/
theorem holds_within (value : Value) (lower upper : FieldExpr) :
    (within value lower upper).holds d row =
      ((compare lower .lte value).holds d row && (compare upper .gte value).holds d row) := by
  rw [holds, holds, holds]
  cases lower.read d row with
  | none => rfl
  | some l =>
      cases upper.read d row with
      | none => exact (Bool.and_false _).symm
      | some u =>
          simp only [Option.any_some]
          rw [Value.isWithin_eq_any, CompareOp.holds_lte_eq_any, CompareOp.holds_gte_eq_any,
            Value.any_isGE_order l value, Value.any_isGE_order value u]

variable {d row expr}

/-- A single stored value is one of the literals when it equals one of them. -/
theorem holds_oneOf_of_kind (values : List Value)
    (hsingle : ∀ v, expr.read d row = some v → v.kind ≠ .set) :
    (oneOf expr values).holds d row =
      values.any fun value => (compare expr .eq value).holds d row := by
  simp only [holds]
  cases hread : expr.read d row with
  | none => simp
  | some stored => exact Value.isOneOf_of_kind values (hsingle stored hread)

/-- A stored list asks for membership of each of its members. -/
theorem holds_oneOf_of_list (values : List Value) {members : List Value}
    (hread : expr.read d row = some (.list members)) (hflat : ∀ m ∈ members, m.kind ≠ .set)
    (ref : PropertyRef) (rows : Value → Row) (hrows : ∀ m ∈ members, rows m ref = some m) :
    (oneOf expr values).holds d row =
      members.any fun m => (oneOf (.property ref) values).holds d (rows m) := by
  have hmember : ∀ m ∈ members, (oneOf (.property ref) values).holds d (rows m) =
      values.any fun value => m.agrees value := by
    intro m hm
    rw [holds, FieldExpr.read, Row.any_get (hrows m hm) (Value.isOneOf_null values),
      Value.isOneOf_of_kind values (hflat m hm)]
  rw [holds, hread, Option.any_some, Value.isOneOf_list, Bool.eq_iff_iff, List.any_eq_true,
    List.any_eq_true]
  apply exists_congr
  intro m
  apply and_congr_right
  intro hm
  rw [hmember m hm]

theorem holds_oneOf_congr {values values' : List Value} (h : ∀ v, v ∈ values ↔ v ∈ values') :
    (oneOf expr values).holds d row = (oneOf expr values').holds d row := by
  rw [holds, holds]
  congr 1
  funext stored
  exact Value.isOneOf_congr h stored

variable {value : Value}

/-- An operator holds where one of two others does if it accepts what they accept. -/
theorem holds_compare_or {op left right : CompareOp}
    (haccepts : ∀ o, op.accepts o = (left.accepts o || right.accepts o)) (h : value.kind ≠ .set) :
    (compare expr op value).holds d row =
      ((compare expr left value).holds d row || (compare expr right value).holds d row) := by
  rw [holds, holds, holds]
  cases expr.read d row with
  | none => rfl
  | some stored =>
      simp only [Option.any_some, CompareOp.holds_eq_any _ h]
      cases stored.order value with
      | none => rfl
      | some o => exact haccepts o

/-- There is one outcome of a comparison at most. -/
theorem countP_holds_compare_le (h : value.kind ≠ .set) :
    [CompareOp.lt, .eq, .gt].countP (fun op => (compare expr op value).holds d row) ≤ 1 := by
  simp only [holds]
  cases expr.read d row with
  | none => exact Nat.zero_le _
  | some stored =>
      simp only [Option.any_some, CompareOp.holds_eq_any _ h]
      cases stored.order value with
      | none => decide
      | some o => cases o <;> decide

variable (d row expr) in
/-- Ranges are pairs of comparisons, and membership is equality with one of the literals,
for a stored list by one of its members. Order and repetition of the literals do not
matter. Against a literal that is no list, the operators that include equality are those
that do not or equality, and no two of the others hold at once. -/
theorem holds_eq_comparisons :
    (∀ lower upper : Value, (between expr lower upper).holds d row =
      ((compare expr .gte lower).holds d row && (compare expr .lte upper).holds d row)) ∧
    (∀ (value : Value) (upper : FieldExpr), (within value expr upper).holds d row =
      ((compare expr .lte value).holds d row && (compare upper .gte value).holds d row)) ∧
    (∀ values : List Value, (∀ v, expr.read d row = some v → v.kind ≠ .set) →
      (oneOf expr values).holds d row =
        values.any fun value => (compare expr .eq value).holds d row) ∧
    (∀ values members : List Value, expr.read d row = some (.list members) →
      (∀ m ∈ members, m.kind ≠ .set) → ∀ (ref : PropertyRef) (rows : Value → Row),
      (∀ m ∈ members, rows m ref = some m) →
      (oneOf expr values).holds d row =
        members.any fun m => (oneOf (.property ref) values).holds d (rows m)) ∧
    (∀ values values' : List Value, (∀ v, v ∈ values ↔ v ∈ values') →
      (oneOf expr values).holds d row = (oneOf expr values').holds d row) ∧
    ∀ value : Value, value.kind ≠ .set →
      (compare expr .lte value).holds d row =
        ((compare expr .lt value).holds d row || (compare expr .eq value).holds d row) ∧
      (compare expr .gte value).holds d row =
        ((compare expr .gt value).holds d row || (compare expr .eq value).holds d row) ∧
      [CompareOp.lt, .eq, .gt].countP (fun op => (compare expr op value).holds d row) ≤ 1 := by
  refine ⟨holds_between d row expr, fun value upper => holds_within d row value expr upper,
    fun values => holds_oneOf_of_kind values, ?_, fun _ _ => holds_oneOf_congr, ?_⟩
  · intro values members hread hflat ref rows hrows
    exact holds_oneOf_of_list values hread hflat ref rows hrows
  · intro value hvalue
    refine ⟨holds_compare_or ?_ hvalue, holds_compare_or ?_ hvalue, countP_holds_compare_le hvalue⟩
    · intro o
      cases o <;> rfl
    · intro o
      cases o <;> rfl

end Predicate

/-- A property of the record itself. -/
def FieldExpr.own (name : String) : FieldExpr := .property (.navigate [name])

/-- A row with a price and a list of sizes, one of them unknown. -/
def Row.offer : Row := Row.ofDotted fun column =>
  [("price", .uint 30), ("sizes", .list [.int 3, .null, .text "l"])].lookup column

/-- The price is among the literals, and so is one of the sizes. -/
theorem Predicate.holds_eq_comparisons_offer :
    (∀ v, (FieldExpr.own "price").read ⟨id, '%'⟩ .offer = some v → v.kind ≠ .set) ∧
    (oneOf (.own "price") [.int 4, .int 30]).holds ⟨id, '%'⟩ .offer = true ∧
    [Value.int 4, .int 30].any (fun value =>
      (compare (.own "price") .eq value).holds ⟨id, '%'⟩ .offer) = true ∧
    (FieldExpr.own "sizes").read ⟨id, '%'⟩ .offer = some (.list [.int 3, .null, .text "l"]) ∧
    (∀ m ∈ [Value.int 3, .null, .text "l"], m.kind ≠ .set) ∧
    (oneOf (.own "sizes") [.uint 3]).holds ⟨id, '%'⟩ .offer = true ∧
    [Value.int 3, .null, .text "l"].any (fun m =>
      (oneOf (.own "price") [.uint 3]).holds ⟨id, '%'⟩ fun _ => some m) = true ∧
    (∀ v, v ∈ [Value.uint 3, .null] ↔ v ∈ [Value.null, .uint 3, .null]) ∧
    (oneOf (.own "sizes") [.uint 3, .null]).holds ⟨id, '%'⟩ .offer =
      (oneOf (.own "sizes") [.null, .uint 3, .null]).holds ⟨id, '%'⟩ .offer ∧
    (Value.int 30).kind ≠ .set ∧
    (compare (.own "price") .lte (.int 30)).holds ⟨id, '%'⟩ .offer = true ∧
    ((compare (.own "price") .lt (.int 30)).holds ⟨id, '%'⟩ .offer ||
      (compare (.own "price") .eq (.int 30)).holds ⟨id, '%'⟩ .offer) = true := by
  have hsingle : ∀ v, (FieldExpr.own "price").read ⟨id, '%'⟩ .offer = some v → v.kind ≠ .set := by
    intro v hv
    obtain rfl : Value.uint 30 = v := Option.some.inj hv
    decide
  have hread : (FieldExpr.own "sizes").read ⟨id, '%'⟩ .offer =
      some (.list [.int 3, .null, .text "l"]) := rfl
  have hflat : ∀ m ∈ [Value.int 3, .null, .text "l"], m.kind ≠ .set := by simp [Value.kind]
  have hliterals : ∀ v, v ∈ [Value.uint 3, .null] ↔ v ∈ [Value.null, .uint 3, .null] := by
    simp
  have hkind : (Value.int 30).kind ≠ .set := by decide
  have hprice := holds_eq_comparisons ⟨id, '%'⟩ .offer (.own "price")
  have hsizes := holds_eq_comparisons ⟨id, '%'⟩ .offer (.own "sizes")
  have hamong : (oneOf (.own "price") [.int 4, .int 30]).holds ⟨id, '%'⟩ .offer = true := by decide
  have hmember : (oneOf (.own "sizes") [.uint 3]).holds ⟨id, '%'⟩ .offer = true := by decide
  have hmost : (compare (.own "price") .lte (.int 30)).holds ⟨id, '%'⟩ .offer = true := by decide
  refine ⟨hsingle, hamong, ?_, hread, hflat, hmember, ?_, hliterals, ?_, hkind, hmost, ?_⟩
  · rw [← hprice.2.2.1 _ hsingle]
    exact hamong
  · exact (hsizes.2.2.2.1 _ _ hread hflat _ (fun m _ => some m) fun _ _ => rfl).symm.trans hmember
  · exact hsizes.2.2.2.2.1 _ _ hliterals
  · rw [← (hprice.2.2.2.2.2 _ hkind).1]
    exact hmost

end Criteria
