import Criteria.Derive.Token
import Criteria.Unicode.Identifier

/-!
# Literals of declarations

A literal is a quotation, of characters or of bytes, or a number. A quotation is
written with escapes or raw. The word right behind a literal is its suffix.

Every reader takes a literal from the left, and gives it as it is written, what it
stands for where that matters, and the rest.
-/

namespace Criteria.Derive.Lexer

/-- A character that a word starts with. -/
def startsWord (c : Char) : Bool := Unicode.startsIdentifier c || c == '_'

/-- A character inside a word. -/
def continuesWord (c : Char) : Bool := Unicode.continuesIdentifier c

/-- The text starts with a character of the given kind. -/
def startsWith (isKind : Char → Bool) (cs : List Char) : Bool := (cs.head?.map isKind).getD false

/-- A hexadecimal digit. -/
def isHexDigit (c : Char) : Bool :=
  c.isDigit || ('a' ≤ c && c ≤ 'f') || ('A' ≤ c && c ≤ 'F')

/-- Value of a hexadecimal digit. -/
def hexValue (c : Char) : Nat :=
  if c.isDigit then c.toNat - '0'.toNat
  else if 'a' ≤ c && c ≤ 'f' then c.toNat - 'a'.toNat + 10
  else c.toNat - 'A'.toNat + 10

/-- Number written in hexadecimal digits. -/
def hexNumber (cs : List Char) : Nat := cs.foldl (fun n c => 16 * n + hexValue c) 0

/-- What may stand inside of a quotation. -/
structure Quotation where
  /-- The character may stand for itself. -/
  isPlain : Char → Bool
  /-- The number may be written in two hexadecimal digits, and zero in one. -/
  isByte : Nat → Bool
  /-- The character may be written by its code point. -/
  isPoint : Char → Bool

namespace Quotation

/-- A quotation of characters. -/
def ofCharacters : Quotation := ⟨fun _ => true, fun n => n < 0x80, fun _ => true⟩

/-- A quotation of bytes. -/
def ofBytes : Quotation := ⟨fun c => c.toNat < 0x80, fun _ => true, fun _ => false⟩

/-- A quotation that ends with a NUL of its own and holds no other. -/
def terminated : Quotation := ⟨fun c => c ≠ '\x00', fun n => n ≠ 0, fun c => c ≠ '\x00'⟩

end Quotation

/-- White space that a backslash at the end of a line drops. -/
def isLineGap (c : Char) : Bool := c == ' ' || c == '\t' || c == '\n' || c == '\r'

/-- Every carriage return stands in front of a line feed. -/
def hasWholeLineEnds : List Char → Bool
  | [] => true
  | '\r' :: '\n' :: rest => hasWholeLineEnds rest
  | '\r' :: _ => false
  | _ :: rest => hasWholeLineEnds rest

/-- Takes a code point behind its opening brace: one to six hexadecimal digits,
underscores behind the first ignored, and the closing brace. -/
def codePoint? (q : Quotation) (cs : List Char) : Option (Nat × Char) :=
  let body := cs.takeWhile fun c => isHexDigit c || c == '_'
  let digits := body.filter isHexDigit
  let n := hexNumber digits
  if startsWith isHexDigit body && digits.length ≤ 6 && n.isValidChar &&
      q.isPoint (Char.ofNat n) && startsWith (· == '\x7d') (cs.drop body.length) then
    some (body.length + 1, Char.ofNat n)
  else none

/-- Takes what is behind the backslash of an escape: its length, and what it
stands for. At the end of a line this is nothing. -/
def escape? (q : Quotation) (cs : List Char) : Option (Nat × List Char) :=
  match cs with
  | 'n' :: _ => some (1, ['\n'])
  | 'r' :: _ => some (1, ['\r'])
  | 't' :: _ => some (1, ['\t'])
  | '0' :: _ => if q.isByte 0 then some (1, ['\x00']) else none
  | 'x' :: a :: b :: _ =>
      let n := hexNumber [a, b]
      if isHexDigit a && isHexDigit b && q.isByte n then some (3, [Char.ofNat n]) else none
  | 'u' :: '\x7b' :: rest => (codePoint? q rest).map fun (n, c) => (n + 2, [c])
  | c :: _ =>
      if c == '\\' || c == '\x27' || c == '"' then some (1, [c])
      else if c == '\n' || c == '\r' then some ((cs.takeWhile isLineGap).length, [])
      else none
  | [] => none

/-- Takes the inside of a quotation up to its mark. The first `skipped` characters
belong to an escape. A carriage return stands for the line feed behind it. -/
def quoted? (q : Quotation) : (skipped : Nat) → List Char →
    Option (List Char × List Char × List Char)
  | _, [] => none
  | skipped + 1, c :: cs =>
      (quoted? q skipped cs).map fun (written, value, rest) => (c :: written, value, rest)
  | 0, c :: cs =>
      if c == '"' then some ([], [], cs)
      else if c == '\\' then
        match escape? q cs with
        | some (n, found) =>
            (quoted? q n cs).map fun (written, value, rest) =>
              (c :: written, found ++ value, rest)
        | none => none
      else if q.isPlain c then
        (quoted? q 0 cs).map fun (written, value, rest) =>
          (c :: written, if c == '\r' then value else c :: value, rest)
      else none

/-- Takes the inside of a raw quotation, up to a mark with the given number of
hashes behind it. -/
def rawRest? (hashes : Nat) : List Char → Option (List Char × List Char)
  | [] => none
  | c :: rest =>
      if c == '"' && rest.take hashes == List.replicate hashes '#' then
        some ([], rest.drop hashes)
      else (rawRest? hashes rest).map fun (s, rest) => (c :: s, rest)

/-- Reads a raw quotation behind its `r`: at most 255 hashes, and the text between
marks. -/
def rawQuotation? (q : Quotation) (cs : List Char) :
    Option (List Char × List Char × List Char) :=
  let hashes := cs.takeWhile (· == '#')
  match cs.drop hashes.length with
  | '"' :: rest =>
      let found := rawRest? hashes.length rest
      (found.filter fun (s, _) => hashes.length ≤ 255 && s.all q.isPlain).map fun (s, rest) =>
        (hashes ++ ['"'] ++ s ++ ['"'] ++ hashes, s, rest)
  | _ => none

/-- Reads a quotation, raw or in escapes. -/
def quotation? (q : Quotation) (cs : List Char) : Option (List Char × List Char × List Char) :=
  let found : Option (List Char × List Char × List Char) := match cs with
    | '"' :: rest =>
        (quoted? q 0 rest).map fun (written, value, rest) =>
          (['"'] ++ written ++ ['"'], value, rest)
    | 'r' :: rest =>
        (rawQuotation? q rest).map fun (written, value, rest) => ('r' :: written, value, rest)
    | _ => none
  found.filter fun (written, _) => hasWholeLineEnds written

/-- Reads a single character or byte between apostrophes. -/
def character? (q : Quotation) (cs : List Char) : Option (List Char × List Char) :=
  match cs with
  | '\x27' :: rest =>
      let length : Nat := match rest with
        | '\\' :: behind => match escape? q behind with
          | some (n, [_]) => n + 1
          | _ => 0
        | c :: _ => if q.isPlain c then 1 else 0
        | [] => 0
      if length ≠ 0 && startsWith (· == '\x27') (rest.drop length) then
        some (cs.take (length + 2), rest.drop (length + 1))
      else none
  | _ => none

/-- A literal with its suffix, which is a word right behind it. -/
def suffixed (written : List Char) (kind : LiteralKind) (rest : List Char) :
    Token × List Char :=
  let suffix := if startsWith startsWord rest then rest.takeWhile continuesWord else []
  (.literal ⟨String.ofList (written ++ suffix), kind⟩, rest.drop suffix.length)

/-- Reads a literal with marks or apostrophes behind the letter for its kind. -/
def markedLiteral? (letter : List Char) (q : Quotation) (cs : List Char) :
    Option (Token × List Char) :=
  ((quotation? q cs).map fun (written, _, rest) => suffixed (letter ++ written) .other rest).or
    ((character? q cs).map fun (written, rest) => suffixed (letter ++ written) .other rest)

def textLiteral? (cs : List Char) : Option (Token × List Char) :=
  match cs with
  | 'b' :: rest => markedLiteral? ['b'] .ofBytes rest
  | 'c' :: rest =>
      (quotation? .terminated rest).map fun (written, _, rest) =>
        suffixed ('c' :: written) .other rest
  | _ =>
      match quotation? .ofCharacters cs with
      | some (written, value, rest) =>
          some (suffixed written (.text (String.ofList value)) rest)
      | none =>
          (character? .ofCharacters cs).map fun (written, rest) => suffixed written .other rest

/-- A digit, or the underscore that may stand between digits. -/
def continuesDigits (c : Char) : Bool := c.isDigit || c == '_'

/-- Takes an exponent behind its letter, if there is one: a sign, which may have
underscores around it, and at least one digit. -/
def exponent? (cs : List Char) : Option (List Char × List Char) :=
  let gap := cs.takeWhile (· == '_')
  let (sign, rest) := match cs.drop gap.length with
    | '+' :: rest => (['+'], rest)
    | '-' :: rest => (['-'], rest)
    | rest => ([], rest)
  let digits := rest.takeWhile continuesDigits
  if digits.any Char.isDigit then some (gap ++ sign ++ digits, rest.drop digits.length) else none

/-- Takes the digits of a number that has a fraction or an exponent. The point
before a second point or a word belongs to what follows. -/
def fractionDigits? (cs : List Char) : Option (List Char × List Char) :=
  let whole := cs.takeWhile continuesDigits
  let behind (taken : List Char) (hasPoint : Bool) (rest : List Char) :=
    match rest with
    | e :: power =>
        if e = 'e' || e = 'E' then
          match exponent? power with
          | some (digits, rest) => some (taken ++ e :: digits, rest)
          | none => if hasPoint then some (taken, rest) else none
        else if hasPoint then some (taken, rest) else none
    | [] => if hasPoint then some (taken, []) else none
  match cs.drop whole.length with
  | '.' :: rest =>
      if startsWith (fun c => c == '.' || startsWord c) rest then none
      else
        let fraction := rest.takeWhile continuesDigits
        behind (whole ++ '.' :: fraction) true (rest.drop fraction.length)
  | rest => behind whole false rest

/-- Takes the digits of a whole number, in the base that its first two
characters may announce. Letters behind them are its suffix. -/
def wholeDigits? (cs : List Char) : Option (List Char × List Char) :=
  let taken (mark : List Char) (isDigit : Char → Bool) (rest : List Char) :=
    let digits := rest.takeWhile fun c => isDigit c || c == '_'
    let rest := rest.drop digits.length
    if digits.any isDigit && !startsWith Char.isDigit rest then some (mark ++ digits, rest)
    else none
  match cs with
  | '0' :: 'x' :: rest => taken ['0', 'x'] isHexDigit rest
  | '0' :: 'o' :: rest => taken ['0', 'o'] (fun c => '0' ≤ c && c ≤ '7') rest
  | '0' :: 'b' :: rest => taken ['0', 'b'] (fun c => c == '0' || c == '1') rest
  | _ => taken [] Char.isDigit cs

/-- Reads a number, which ends where a word would. -/
def numberLiteral? (cs : List Char) : Option (Token × List Char) :=
  if startsWith Char.isDigit cs then
    let ended (found : Token × List Char) := !startsWith continuesWord found.2
    let fraction? := (fractionDigits? cs).map fun (digits, rest) => suffixed digits .fraction rest
    let whole? := (wholeDigits? cs).map fun (digits, rest) => suffixed digits .whole rest
    (fraction?.filter ended).or (whole?.filter ended)
  else none

def literal? (cs : List Char) : Option (Token × List Char) :=
  (textLiteral? cs).or (numberLiteral? cs)

end Criteria.Derive.Lexer
