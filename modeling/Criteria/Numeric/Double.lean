/-!
# Binary floating-point numbers

A `Double` is a 64-bit pattern: a sign bit, eleven exponent bits and 52 fraction
bits. Read without the sign bit, patterns ascend with the numbers they stand
for, so comparison needs no arithmetic on reals: `Double.key` maps a pattern to
an integer, both zeros to `0`, and a comparison that involves no NaN is the
comparison of keys.

Integers widen to the nearest `Double`, of two equally near ones to the one
whose last fraction bit is zero.
-/

namespace Criteria

/-- A 64-bit floating-point number, by its bits. -/
structure Double where
  bits : UInt64
deriving DecidableEq, Repr

namespace Double

def signWeight : Nat := Nat.pow 2 63

def exponentWeight : Nat := Nat.pow 2 52

/-- Weight of the highest fraction bit, which a quiet NaN has set. -/
def quietWeight : Nat := Nat.pow 2 51

/-- The pattern without its sign bit. -/
def magnitude (x : Double) : Nat := x.bits.toNat % signWeight

def isNegative (x : Double) : Bool := signWeight ≤ x.bits.toNat

/-- The pattern of positive infinity; every NaN has a greater magnitude. -/
def infinityBits : Nat := 2047 * exponentWeight

def isNaN (x : Double) : Bool := infinityBits < x.magnitude

/-- An integer that orders all patterns other than NaN. -/
def key (x : Double) : Int := if x.isNegative then -(x.magnitude : Int) else x.magnitude

/-- Order of two numbers; a NaN has none. -/
def order (x y : Double) : Option Ordering :=
  if x.isNaN || y.isNaN then none else some (compare x.key y.key)

/-- The quotient of `n` and `2 ^ k`, rounded to nearest with ties to even. -/
def roundShift (n k : Nat) : Nat :=
  let step := Nat.pow 2 k
  let q := n / step
  let r := n % step
  if 2 * r < step then q
  else if step < 2 * r then q + 1
  else q + q % 2

/-- Pattern of the number nearest to a positive natural number. The significand
is scaled to 53 bits; one that rounds up to 54 carries into the exponent. -/
def bitsOfPos (n : Nat) : Nat :=
  let e := n.log2
  let significand := if e ≤ 52 then n * Nat.pow 2 (52 - e) else roundShift n (e - 52)
  (e + 1022) * exponentWeight + significand

/-- The number nearest to a natural number. -/
def ofNat (n : Nat) : Double := ⟨UInt64.ofNat (if n = 0 then 0 else bitsOfPos n)⟩

/-- The number nearest to an integer; zero is positive. -/
def ofInt (i : Int) : Double :=
  if i < 0 then ⟨UInt64.ofNat (signWeight + bitsOfPos i.natAbs)⟩ else ofNat i.natAbs

end Double

/-- A 32-bit floating-point number, by its bits: a sign bit, eight exponent bits
and 23 fraction bits. -/
structure Single where
  bits : UInt32
deriving DecidableEq, Repr

namespace Single

def signWeight : Nat := Nat.pow 2 31

def exponentWeight : Nat := Nat.pow 2 23

/-- Weight of the highest fraction bit. -/
def quietWeight : Nat := Nat.pow 2 22

/-- The same number in 64 bits. Exponents move to the wider range, a number
below the least normal one gains an exponent of its own, and a NaN becomes a
quiet one that keeps its payload in front. -/
def toDouble (x : Single) : Double :=
  let n := x.bits.toNat
  let sign := if signWeight ≤ n then Double.signWeight else 0
  let exponent := n / exponentWeight % 256
  let fraction := n % exponentWeight
  let payload := fraction * (Double.exponentWeight / exponentWeight)
  let quiet := if fraction = 0 ∨ quietWeight ≤ fraction then 0 else Double.quietWeight
  let magnitude :=
    if exponent = 255 then Double.infinityBits + payload + quiet
    else if exponent = 0 then
      if fraction = 0 then 0 else Double.bitsOfPos fraction - 149 * Double.exponentWeight
    else (exponent + 896) * Double.exponentWeight + payload
  ⟨UInt64.ofNat (sign + magnitude)⟩

end Single

end Criteria
