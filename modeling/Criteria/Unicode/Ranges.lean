/-!
# Ranges of code points

A property of characters is a list of closed ranges of code points, ascending
and apart. Membership is the only question asked of it.

Long lists are written in parts that are named after what they mostly hold. They
end at 0x5FF (`Latin`), 0x8FF (`Semitic`), 0xDFF (`Brahmic`), 0x1FFF (`Asian`),
0x2FFF (`Symbols`), 0xD7FF (`Ideographic`), 0xFFFF (`Compatibility`), 0x10FFF
(`Ancient`), 0x11FFF (`Southern`) and 0x10FFFF (`Upper`).
-/

namespace Criteria.Unicode

/-- The code point lies in one of the closed ranges. -/
def inRanges (ranges : List (Nat × Nat)) (n : Nat) : Bool :=
  ranges.any fun r => r.1 ≤ n && n ≤ r.2

end Criteria.Unicode
