import Criteria.Value.Basic

/-!
# Conversion into values

The types that a filter field may have, and the value each of them reads as. A
missing optional is null, a box is transparent, and a collection becomes the
list of its members. The members of a set are listed once each, in ascending
order.
-/

namespace Criteria

/-- A type whose elements read as values. -/
class ToValue (α : Type) where
  toValue : α → Value

export ToValue (toValue)

instance : ToValue Value := ⟨id⟩
instance : ToValue String := ⟨.text⟩
instance : ToValue Int8 := ⟨fun n => .int n.toInt64⟩
instance : ToValue Int16 := ⟨fun n => .int n.toInt64⟩
instance : ToValue Int32 := ⟨fun n => .int n.toInt64⟩
instance : ToValue Int64 := ⟨.int⟩
instance : ToValue UInt8 := ⟨fun n => .uint n.toUInt64⟩
instance : ToValue UInt16 := ⟨fun n => .uint n.toUInt64⟩
instance : ToValue UInt32 := ⟨fun n => .uint n.toUInt64⟩
instance : ToValue UInt64 := ⟨.uint⟩
instance : ToValue Single := ⟨fun x => .float x.toDouble⟩
instance : ToValue Double := ⟨.float⟩
instance : ToValue Bool := ⟨.bool⟩
instance : ToValue Date := ⟨.date⟩
instance : ToValue Timestamp := ⟨.timestamp⟩

/-- A missing optional reads as null. -/
instance {α : Type} [ToValue α] : ToValue (Option α) :=
  ⟨fun x => (x.map toValue).getD .null⟩

/-- A collection reads as the list of its members. -/
instance {α : Type} [ToValue α] : ToValue (List α) := ⟨fun xs => .list (xs.map toValue)⟩

/-- Puts a member into an ascending list, unless it is there. -/
def insertAscending {α : Type} [Ord α] (x : α) : List α → List α
  | [] => [x]
  | y :: ys =>
      match compare x y with
      | .lt => x :: y :: ys
      | .eq => y :: ys
      | .gt => y :: insertAscending x ys

/-- The set of the given members. -/
structure MemberSet (α : Type) where
  ascending : List α

/-- Collects members into a set. -/
def MemberSet.ofList {α : Type} [Ord α] (xs : List α) : MemberSet α :=
  ⟨xs.foldr insertAscending []⟩

/-- A set reads as the list of its members in ascending order. -/
instance {α : Type} [ToValue α] : ToValue (MemberSet α) := ⟨fun s => toValue s.ascending⟩

end Criteria
