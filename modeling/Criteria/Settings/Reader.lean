import Criteria.Json.Reader
import Criteria.Operation
import Criteria.Settings

/-!
# Settings in JSON

Settings are written as an object with the names of the settings that differ
from the defaults, or as an array of the first few settings in their order. Each
may be given once, and no other name is known. An operation or an operator is
written as its name, or as an object that gives this name the value null.
-/

namespace Criteria

namespace Settings

/-- Reads a wildcard: a string of one character. -/
def wildcard? : Json → Option Char
  | .string s =>
      match s.toList with
      | [c] => some c
      | _ => none
  | _ => none

def flag? : Json → Option Bool
  | .bool b => some b
  | _ => none

/-- Reads a number of levels: digits alone, below `2 ^ 64`. -/
def levels? : Json → Option Nat
  | .number digits =>
      if digits.toList.all Char.isDigit then
        let n := digits.toList.foldl (fun n c => 10 * n + (c.toNat - '0'.toNat)) 0
        if n < UInt64.size then some n else none
      else none
  | _ => none

/-- Sets one setting by its name. -/
def set? (s : Settings) (name : String) (value : Json) : Option Settings :=
  if name = "wildcard" then (wildcard? value).map fun c => { s with wildcard := c }
  else if name = "collect_diagnostics" then
    (flag? value).map fun b => { s with collectDiagnostics := b }
  else if name = "max_group_depth" then
    (levels? value).map fun n => { s with maxGroupDepth := n }
  else none

/-- Sets several settings by their names, from the left. -/
def setAll? (s : Settings) : List (String × Json) → Option Settings
  | [] => some s
  | (name, value) :: rest =>
      if rest.any (·.1 == name) then none
      else (s.set? name value).bind fun s => s.setAll? rest

/-- The settings in the order in which an array gives them. -/
def names : List String := ["wildcard", "collect_diagnostics", "max_group_depth"]

/-- Reads settings from a document. -/
def ofJson? : Json → Option Settings
  | .object members => setAll? {} members
  | .array elements =>
      if elements.length ≤ names.length then setAll? {} (names.zip elements) else none
  | _ => none

def ofText? (text : String) : Option Settings := (Json.ofText? text).bind ofJson?

end Settings

/-- Reads a name that stands alone or with the value null. -/
def Json.name? : Json → Option String
  | .string s => some s
  | .object [(name, .null)] => some name
  | _ => none

def Operation.ofText? (text : String) : Option Operation :=
  ((Json.ofText? text).bind Json.name?).bind Operation.ofKey?

def Operator.ofText? (text : String) : Option Operator :=
  ((Json.ofText? text).bind Json.name?).bind Operator.ofKey?

end Criteria
