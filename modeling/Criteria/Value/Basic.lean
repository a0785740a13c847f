import Criteria.Calendar.Timestamp
import Criteria.Numeric.Double

/-!
# Values

A `Value` is a literal asked for by a filter, or what a record holds in one of
its properties. Integers are 64-bit words, signed or unsigned; an enumeration
value is the name of its variant; a list holds the members of a collection.
-/

namespace Criteria

/-- A literal or a stored value. -/
inductive Value where
  | null
  | text (s : String)
  | int (n : Int64)
  | uint (n : UInt64)
  | float (x : Double)
  | bool (b : Bool)
  | date (d : Date)
  | timestamp (t : Timestamp)
  | enum (variant : String)
  | list (members : List Value)

/-- Coarse class of a value, which decides how a constraint on it is built. -/
inductive ValueKind where
  | null
  | text
  /-- Numbers, dates and timestamps. -/
  | ordered
  /-- Collections, asked for by membership. -/
  | set
  /-- Truth values. -/
  | flag
  /-- Enumeration values. -/
  | tag
deriving DecidableEq, Repr

def ValueKind.name : ValueKind → String
  | .null => "Null"
  | .text => "Text"
  | .ordered => "Ordered"
  | .set => "Set"
  | .flag => "Flag"
  | .tag => "Tag"

def ValueKind.all : List ValueKind := [.null, .text, .ordered, .set, .flag, .tag]

def ValueKind.ofName? (name : String) : Option ValueKind := all.find? (·.name == name)

@[simp] theorem ValueKind.ofName?_name (kind : ValueKind) : ofName? kind.name = some kind := by
  cases kind <;> rfl

namespace Value

def kind : Value → ValueKind
  | null => .null
  | text _ => .text
  | int _ | uint _ | float _ | date _ | timestamp _ => .ordered
  | bool _ => .flag
  | enum _ => .tag
  | list _ => .set

/-- No value at all. -/
def isNull : Value → Bool
  | null => true
  | _ => false

def isNumeric : Value → Bool
  | int _ | uint _ | float _ => true
  | _ => false

def isTemporal : Value → Bool
  | date _ | timestamp _ => true
  | _ => false

/-- A collection without members, which is how an unset collection reads. -/
def isEmptyList : Value → Bool
  | list [] => true
  | _ => false

/-- The integer that an integer value stands for. -/
def integer? : Value → Option Int
  | int n => some n.toInt
  | uint n => some n.toNat
  | _ => none

/-- The instant that a temporal value stands for, a date being its midnight. -/
def instant? : Value → Option Int
  | date d => some d.midnight.instant
  | timestamp t => some t.instant
  | _ => none

/-- The floating-point number nearest to a numeric value. -/
def double? : Value → Option Double
  | int n => some (.ofInt n.toInt)
  | uint n => some (.ofNat n.toNat)
  | float x => some x
  | _ => none

end Value

end Criteria
