import Criteria.Unicode.Ranges

/-!
# White space

The 25 characters with the property `White_Space`. Tab, line feed, carriage
return and the plain space are among them; the zero-width space is not.
-/

namespace Criteria.Unicode

/-- Code points with the property `White_Space`. -/
def whiteSpaceRanges : List (Nat × Nat) :=
  [(0x09, 0x0D), (0x20, 0x20), (0x85, 0x85), (0xA0, 0xA0), (0x1680, 0x1680), (0x2000, 0x200A),
   (0x2028, 0x2029), (0x202F, 0x202F), (0x205F, 0x205F), (0x3000, 0x3000)]

/-- A character that separates words. -/
def isWhiteSpace (c : Char) : Bool := inRanges whiteSpaceRanges c.toNat

end Criteria.Unicode
