import Criteria.Unicode.Printable

/-!
# Quoted text

A description quotes names between two equal delimiters. Inside, the delimiter
and the backslash stand behind a backslash, four control characters have a
letter, and every other character that cannot be seen is written by its code
point in hexadecimal.
-/

namespace Criteria.Text

/-- Code point of `c` between braces, in the fewest lower-case hexadecimal digits. -/
def codePointEscape (c : Char) : List Char :=
  ['\\', 'u', '\x7b'] ++ Nat.toDigits 16 c.toNat ++ ['\x7d']

/-- The written form of one character inside the given delimiter. -/
def escapeChar (delimiter c : Char) : List Char :=
  if c = '\x00' then ['\\', '0']
  else if c = '\t' then ['\\', 't']
  else if c = '\r' then ['\\', 'r']
  else if c = '\n' then ['\\', 'n']
  else if c = '\\' || c = delimiter then ['\\', c]
  else if Unicode.isPrintable c then [c]
  else codePointEscape c

/-- A name between double quotation marks. -/
def quoted (s : String) : String :=
  String.ofList (['"'] ++ s.toList.flatMap (escapeChar '"') ++ ['"'])

/-- A single character between apostrophes. -/
def quotedChar (c : Char) : String :=
  String.ofList (['\''] ++ escapeChar '\'' c ++ ['\''])

end Criteria.Text
