import Criteria.Derive.Lookahead

/-!
# Errors in declarations

What can be wrong with a declaration. Where a reader names what it expected
instead of what it found, it also tells when it found the end.
-/

namespace Criteria.Derive

/-- Why a declaration is refused. -/
inductive DeriveError where
  /-- The text is no sequence of token trees. -/
  | notTokens
  /-- Something else was expected here; `atEnd` tells that nothing is left. -/
  | expected (what : String) (atEnd : Bool)
  /-- Tokens are left over, maybe inside of a group. -/
  | unexpectedToken (inside : Option Delimiter)
  | unexpectedEnd
  | keywordAsName (keyword : String)
  | literalAsKey
  | signAsKey
  /-- An attribute stands where another one should have its value. -/
  | attributeAsValue
  /-- A bound captures parameters where it may not. -/
  | captureNotAllowed
  /-- A bound is marked as constant where it may not; the mark may be in
  brackets. -/
  | constantNotAllowed (isBracketed : Bool)
  /-- Lifetimes are bound in a bound with a question mark. -/
  | boundLifetimesNotAllowed
  /-- There are no bounds but lifetimes and captures. -/
  | traitMissing (isObject : Bool)
  /-- Parameters stand behind the word for conditions. -/
  | parametersInConditions
  | chainedComparison
  /-- A cast is followed by what binds tighter. -/
  | castFollowedBy (what : String)
  | attributeOnRange
  | labelInBreak
  | semicolonMissing
  /-- An open range pattern stands in a slice pattern. -/
  | openRangeInSlice
  /-- The item has no named fields. -/
  | noNamedFields
  | argumentsMissing
  | argumentsNotDelimited
  | unsupportedItemKey
  | unsupportedFieldKey
  | unsupportedGroupKey
  | unsupportedPairKey (lower upper : String)
  | incompletePair (lower upper : String)
deriving DecidableEq, Repr

/-- Text between backticks. -/
def ticked (s : String) : String := "\x60" ++ s ++ "\x60"

def DeriveError.message : DeriveError → String
  | notTokens => "cannot parse string into token stream"
  | expected what atEnd =>
      (if atEnd then "unexpected end of input, expected " else "expected ") ++ what
  | unexpectedToken none => "unexpected token"
  | unexpectedToken (some d) =>
      "unexpected token, expected " ++ ticked (String.singleton d.closing)
  | unexpectedEnd => "unexpected end of input"
  | keywordAsName keyword => "expected identifier, found keyword " ++ ticked keyword
  | literalAsKey => "unexpected literal in nested attribute, expected ident"
  | signAsKey => "unexpected token in nested attribute, expected ident"
  | attributeAsValue => "unexpected attribute inside of attribute"
  | captureNotAllowed => ticked "use<...>" ++ " precise capturing syntax is not allowed here"
  | constantNotAllowed isBracketed =>
      ticked (if isBracketed then "[const]" else "const") ++ " is not allowed here"
  | boundLifetimesNotAllowed =>
      ticked "for<...>" ++ " binder not allowed with " ++ ticked "?" ++ " trait polarity modifier"
  | traitMissing isObject =>
      if isObject then "at least one trait is required for an object type"
      else "at least one trait must be specified"
  | parametersInConditions =>
      "generic parameters on " ++ ticked "where" ++ " clauses are reserved for future use"
  | chainedComparison => "comparison operators cannot be chained"
  | castFollowedBy what => "casts cannot be followed by " ++ what
  | attributeOnRange =>
      "attributes are not allowed on range expressions starting with " ++ ticked ".."
  | labelInBreak => "parentheses required"
  | semicolonMissing => "unexpected token, expected " ++ ticked ";"
  | openRangeInSlice =>
      "range pattern is not allowed unparenthesized inside a slice pattern"
  | noNamedFields => "Filter can only be derived for structs with named fields"
  | argumentsMissing => "expected attribute arguments in parentheses: #[filter(...)]"
  | argumentsNotDelimited => "expected parentheses: #[filter(...)]"
  | unsupportedItemKey =>
      "unsupported filter attribute, expected " ++ ticked "entity = Type"
  | unsupportedFieldKey => "unsupported filter attribute"
  | unsupportedGroupKey =>
      "expected " ++ ticked "operator = And" ++ " or " ++ ticked "operator = Or"
  | unsupportedPairKey lower upper => "expected " ++ ticked lower ++ " or " ++ ticked upper
  | incompletePair lower upper =>
      "expected both " ++ ticked (lower ++ " = \"...\"") ++ " and " ++
        ticked (upper ++ " = \"...\"")

/-- What a reader has taken from the left, with the tokens that are left. -/
abbrev Taken (α : Type) := α × List Token

/-- A reader of tokens. -/
abbrev Reader (α : Type) := List Token → Except DeriveError (Taken α)

/-- Something else was expected in front of these tokens. -/
def unmet {α : Type} (what : String) (ts : List Token) : Except DeriveError α :=
  .error (.expected what ts.isEmpty)

/-- Reads a sign. A missing one is reported alike at the end and elsewhere. -/
def readSign (c : Char) (ts : List Token) : Except DeriveError (List Token) :=
  match ts with
  | t :: rest =>
      if t.isSign c then .ok rest else .error (.expected (ticked (String.singleton c)) false)
  | [] => .error (.expected (ticked (String.singleton c)) false)

def readName (ts : List Token) : Except DeriveError (Taken Word) :=
  match ts with
  | .word w :: rest =>
      if w.isName then .ok (w, rest) else .error (.keywordAsName w.text)
  | _ => unmet "identifier" ts

def readString (ts : List Token) : Except DeriveError (Taken String) :=
  match ts with
  | .literal ⟨_, .text s⟩ :: rest => .ok (s, rest)
  | _ => unmet "string literal" ts

/-- Reads an equality sign and what stands behind it. -/
def readAssigned {α : Type} (read : Reader α) (ts : List Token) : Except DeriveError (Taken α) :=
  (readSign '=' ts).bind read

end Criteria.Derive
