import Criteria.Compilation.Session

/-!
# Descriptions of sessions

The description of a session names the entity, lists the predicates and the skipped
fields with their reasons, constructor by constructor, and counts the groups around it.
-/

namespace Criteria

/-- Description of a record: its name and its named parts. -/
def describeRecord (name : String) (parts : List (String × String)) : String :=
  name ++ " \x7b " ++ ", ".intercalate (parts.map fun p => p.1 ++ ": " ++ p.2) ++ " \x7d"

def ResolveError.describe : ResolveError → String
  | propertyNotFound entity segment path => located "PropertyNotFound" entity segment path
  | notNavigable entity segment path => located "NotNavigable" entity segment path
  | notAnAssociation entity segment path => located "NotAnAssociation" entity segment path
  | joinTooShort path => describeRecord "JoinTooShort" [("path", Text.quoted path)]
  | emptySegment path => describeRecord "EmptySegment" [("path", Text.quoted path)]
where
  /-- Description of an error at a segment of a path. -/
  located (name entity segment path : String) : String :=
    describeRecord name
      [("entity", Text.quoted entity), ("segment", Text.quoted segment),
       ("path", Text.quoted path)]

def AccessError.describe : AccessError → String
  | unknownField filter field =>
      describeRecord "UnknownField"
        [("filter", Text.quoted filter), ("field", Text.quoted field)]
  | unreadable field reason =>
      describeRecord "Unreadable"
        [("field", Text.quoted field), ("message", Text.quoted reason)]

def SkipReason.describe : SkipReason → String
  | propertyNotFound cause => "PropertyNotFound(" ++ cause.describe ++ ")"
  | unsupportedKind kind context =>
      describeRecord "UnsupportedValueKind"
        [("kind", kind.name), ("context", Text.quoted context)]
  | invalidPeriod start stop =>
      describeRecord "InvalidPeriod" [("start", start.toText), ("end", stop.toText)]
  | incompletePeriod => "IncompletePeriod"
  | accessorFailure cause => "AccessorFailure(" ++ cause.describe ++ ")"
  | unexpectedInput expected found =>
      describeRecord "UnexpectedInput"
        [("expected", Text.quoted expected), ("found", Text.quoted found)]
  | groupTooDeep limit => describeRecord "GroupTooDeep" [("limit", toString limit)]

def FieldSkip.describe (s : FieldSkip) : String :=
  describeRecord "FieldSkip" [("field", Text.quoted s.field), ("reason", s.reason.describe)]

def Diagnostics.describe (d : Diagnostics) : String :=
  "Diagnostics([" ++ ", ".intercalate (d.map FieldSkip.describe) ++ "])"

/-- Description of a session, where that of a predicate is given. -/
def Session.describe {ι : Type} (ofPredicate : Predicate → String) (s : Session ι) : String :=
  "PredicateBuilder \x7b entity: " ++ Text.quoted (s.compiler.schema.nameOf s.compiler.root) ++
    ", predicates: [" ++ ", ".intercalate (s.predicates.map ofPredicate) ++
    "], diagnostics: " ++ Diagnostics.describe s.diagnostics ++
    ", depth: " ++ toString s.depth ++ ", .. \x7d"

end Criteria
