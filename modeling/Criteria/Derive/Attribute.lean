import Criteria.Derive.Grammar.Level
import Criteria.Filter.Declaration

/-!
# Attributes of declarations

An attribute whose path is `filter` holds a list of entries in delimiters. An
entry is a key, alone or with a value or with entries of its own. The entries of
all such attributes of a field are read from left to right and then merged one
after the other, so that the last entry of a key decides and a flag stays set.
-/

namespace Criteria.Derive

/-- Key of an entry. Only a plain word can be a known one. -/
inductive Key where
  | name (text : String)
  | other
deriving DecidableEq, Repr

/-- Drops the further segments of a key that is a path. -/
def dropKeySegments : Nat → List Token → Except DeriveError (List Token)
  | fuel + 1, .sign ':' true :: .sign ':' _ :: rest =>
      match rest with
      | .word _ :: rest => dropKeySegments fuel rest
      | _ => unmet "ident" rest
  | _, ts => .ok ts

def readKey (ts : List Token) : Except DeriveError (Taken Key) := do
  let behind := if aheadColons ts then ts.drop 2 else ts
  match behind with
  | .word w :: rest => do
      let isPath := aheadColons ts || aheadColons rest
      let rest ← dropKeySegments rest.length rest
      return (if isPath || w.isRaw then .other else .name w.text, rest)
  | [] => unmet "nested attribute" []
  | _ => .error (if aheadLiteral behind then .literalAsKey else .signAsKey)

/-- Reads entries separated by commas, at most `fuel` of them; the last may have
a comma behind it. `read` takes a key and the tokens behind it. -/
def readEntries {α : Type} (read : Key → Reader α) :
    Nat → List Token → Except DeriveError (List α)
  | 0, _ => .error (.unexpectedToken none)
  | fuel + 1, ts => do
      let (key, rest) ← readKey ts
      let (entry, rest) ← read key rest
      match rest with
      | [] => return [entry]
      | _ => do
          let rest ← readSign ',' rest
          match rest with
          | [] => return [entry]
          | _ => do
              let entries ← readEntries read fuel rest
              return entry :: entries

def Attribute.entries {α : Type} (read : Key → Reader α) (a : Attribute) :
    Except DeriveError (List α) :=
  match a.arguments with
  | .none => .error .argumentsMissing
  | .assigned => .error .argumentsNotDelimited
  | .list [] => .ok []
  | .list ts => readEntries read ts.length ts

/-- Reads the entries of several attributes, those of other paths left out. -/
def entriesOf {α : Type} (read : Key → Reader α) :
    List Attribute → Except DeriveError (List α)
  | [] => .ok []
  | a :: as =>
      if a.isFilter then do
        let entries ← a.entries read
        let more ← entriesOf read as
        return entries ++ more
      else entriesOf read as

/-- The path of an entity as it is written again, and where tokens inside of it
were left over. -/
structure EntityPath where
  written : List Token
  leftover : Option Delimiter

def readEntityPath (ts : List Token) : Except DeriveError (Taken EntityPath) := do
  let (_, s) ← (Grammar.copyPath (Grammar.ofTokens ts) false).run ⟨ts, [], none⟩
  return (⟨s.written.reverse, s.leftover⟩, s.ahead)

/-- Reads an entry of an item's attribute: the path of its entity. -/
def readItemEntry (key : Key) (ts : List Token) : Except DeriveError (Taken EntityPath) :=
  if key = .name "entity" then readAssigned readEntityPath ts else .error .unsupportedItemKey

/-- Reads the paths of entities from the attributes of an item. Tokens left over
inside of a path are reported at the end of its attribute. -/
def readEntities : List Attribute → Except DeriveError (List (List Token))
  | [] => .ok []
  | a :: as =>
      if a.isFilter then do
        let paths ← a.entries readItemEntry
        match paths.findSome? (·.leftover) with
        | some d => .error (.unexpectedToken (some d))
        | none => do
            let more ← readEntities as
            return paths.map (·.written) ++ more
      else readEntities as

/-- Side of a pair of properties. -/
inductive Side where
  | lower (property : String)
  | upper (property : String)
deriving DecidableEq, Repr

/-- Reads one side of a pair, the sides having the given names. -/
def readSide (lower upper : String) (key : Key) (ts : List Token) :
    Except DeriveError (Taken Side) :=
  if key = .name lower then (readAssigned readString ts).map fun (s, rest) => (.lower s, rest)
  else if key = .name upper then
    (readAssigned readString ts).map fun (s, rest) => (.upper s, rest)
  else .error (.unsupportedPairKey lower upper)

/-- The last lower side among the given ones. -/
def lastLower? (sides : List Side) : Option String :=
  sides.foldl (fun found side => match side with
    | .lower s => some s
    | .upper _ => found) none

/-- The last upper side among the given ones. -/
def lastUpper? (sides : List Side) : Option String :=
  sides.foldl (fun found side => match side with
    | .lower _ => found
    | .upper s => some s) none

def readNested {α : Type} (read : Key → Reader α) (ts : List Token) :
    Except DeriveError (Taken (List α)) :=
  match ts with
  | .group .parenthesis content :: rest => do
      let entries ← readEntries read content.length.succ content
      return (entries, rest)
  | _ => unmet "parentheses" ts

def readPair (lower upper : String) (ts : List Token) :
    Except DeriveError (Taken PropertyPair) := do
  let (sides, rest) ← readNested (readSide lower upper) ts
  match lastLower? sides, lastUpper? sides with
  | some l, some u => return (⟨l, u⟩, rest)
  | _, _ => .error (.incompletePair lower upper)

def readGroupEntry (key : Key) (ts : List Token) : Except DeriveError (Taken Word) :=
  if key = .name "operator" then readAssigned readName ts else .error .unsupportedGroupKey

/-- Operator of a group that names none. -/
def defaultGroup : Word := ⟨"And", false⟩

/-- Reads what stands behind the key of a group: nothing, or its operator in
parentheses. -/
def readGroup (ts : List Token) : Except DeriveError (Taken Word) :=
  match ts with
  | .group .parenthesis _ :: _ =>
      (readNested readGroupEntry ts).map fun (words, rest) =>
        (words.getLast?.getD defaultGroup, rest)
  | _ => .ok (defaultGroup, ts)

/-- Entry of a field's attribute. -/
inductive FieldEntry where
  | property (path : String)
  | operation (name : Word)
  | nullable
  | join
  | skip
  | group (operator : Word)
  | between (bounds : PropertyPair)
  | period (bounds : PropertyPair)
deriving DecidableEq, Repr

def readFieldEntry (key : Key) (ts : List Token) : Except DeriveError (Taken FieldEntry) :=
  match key with
  | .name "property" => (readAssigned readString ts).map fun (s, rest) => (.property s, rest)
  | .name "operation" => (readAssigned readName ts).map fun (w, rest) => (.operation w, rest)
  | .name "nullable" => .ok (.nullable, ts)
  | .name "join" => .ok (.join, ts)
  | .name "skip" => .ok (.skip, ts)
  | .name "group" => (readGroup ts).map fun (w, rest) => (.group w, rest)
  | .name "between" => (readPair "left" "right" ts).map fun (p, rest) => (.between p, rest)
  | .name "period" => (readPair "start" "end" ts).map fun (p, rest) => (.period p, rest)
  | _ => .error .unsupportedFieldKey

/-- What the attributes of a field declare. Contradictory roles are kept. -/
structure FieldAttributes where
  property : Option String := none
  operation : Option Word := none
  nullable : Bool := false
  between : Option PropertyPair := none
  join : Bool := false
  group : Option Word := none
  period : Option PropertyPair := none
  skip : Bool := false
deriving DecidableEq, Repr

namespace FieldAttributes

/-- Takes one entry over. -/
def set (a : FieldAttributes) : FieldEntry → FieldAttributes
  | .property path => { a with property := some path }
  | .operation name => { a with operation := some name }
  | .nullable => { a with nullable := true }
  | .join => { a with join := true }
  | .skip => { a with skip := true }
  | .group operator => { a with group := some operator }
  | .between bounds => { a with between := some bounds }
  | .period bounds => { a with period := some bounds }

/-- Merges entries from left to right. -/
def ofEntries (entries : List FieldEntry) : FieldAttributes := entries.foldl set {}

theorem ofEntries_append (es fs : List FieldEntry) :
    ofEntries (es ++ fs) = fs.foldl set (ofEntries es) :=
  List.foldl_append

def read (attributes : List Attribute) : Except DeriveError FieldAttributes :=
  (entriesOf readFieldEntry attributes).map ofEntries

/-- The tags that the attributes stand for, unless they name an operation or an
operator that does not exist. -/
def tags? (a : FieldAttributes) : Option FieldTags := do
  let operation ← match a.operation with
    | some w => (Operation.ofVariant? w.text).map some
    | none => some none
  let group ← match a.group with
    | some w => (Operator.ofVariant? w.text).map some
    | none => some none
  return {
    property := a.property
    operation := operation
    nullable := a.nullable
    between := a.between
    join := a.join
    group := group
    period := a.period }

end FieldAttributes

end Criteria.Derive
