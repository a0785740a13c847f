import Criteria.Text.Quoted

/-!
# Text dialects

What the two sides of a comparison have to agree on: how accents are removed
from lower-case text, and which character is the wildcard of patterns. The
literal side is prepared in a dialect and the stored side is read in the same
one.
-/

namespace Criteria

/-- Accent removal and wildcard shared by construction and evaluation. -/
structure Dialect where
  unaccent : String → String
  wildcard : Char

/-- Description of a holder of a dialect: its wildcard is shown, its accent
removal is not. -/
def Dialect.describe (holder : String) (d : Dialect) : String :=
  holder ++ " \x7b wildcard: " ++ Text.quotedChar d.wildcard ++ ", .. \x7d"

end Criteria
