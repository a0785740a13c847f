/-!
# JSON documents

A JSON document as it is written: numbers keep their digits, and the members of
an object keep their order and may repeat a name.
-/

namespace Criteria

/-- A JSON value. -/
inductive Json where
  | null
  | bool (b : Bool)
  | number (digits : String)
  | string (s : String)
  | array (elements : List Json)
  | object (members : List (String × Json))

end Criteria
