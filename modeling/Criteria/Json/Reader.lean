import Criteria.Json.Basic

/-!
# Reading JSON

A document is one value with nothing but blanks around it. The grammar is the
strict one: no comments, no trailing commas, no leading zeros, control
characters only as escapes, and surrogates only in pairs.

Readers take a text apart from the left and give the rest back. Those that meet
each other again inside a value carry a bound on the number of calls; the
document's length bounds it, as every second call takes a character.
-/

namespace Criteria.Json

/-- A blank between tokens. -/
def isBlank (c : Char) : Bool := c = ' ' || c = '\t' || c = '\n' || c = '\r'

def skipBlanks (cs : List Char) : List Char := cs.dropWhile isBlank

/-- The text behind a given word. -/
def afterWord? : List Char → List Char → Option (List Char)
  | [], cs => some cs
  | _ :: _, [] => none
  | w :: ws, c :: cs => if w = c then afterWord? ws cs else none

def hexDigit? (c : Char) : Option Nat :=
  if '0' ≤ c && c ≤ '9' then some (c.toNat - '0'.toNat)
  else if 'a' ≤ c && c ≤ 'f' then some (c.toNat - 'a'.toNat + 10)
  else if 'A' ≤ c && c ≤ 'F' then some (c.toNat - 'A'.toNat + 10)
  else none

def codeUnit? : List Char → Option (Nat × List Char)
  | a :: b :: c :: d :: rest => do
      let a ← hexDigit? a
      let b ← hexDigit? b
      let c ← hexDigit? c
      let d ← hexDigit? d
      some (((a * 16 + b) * 16 + c) * 16 + d, rest)
  | _ => none

/-- Reads the digits of an escape by code unit; a high surrogate needs a second
escape with a low one. -/
def escapedUnit? (cs : List Char) : Option (Char × List Char) := do
  let (high, rest) ← codeUnit? cs
  if 0xD800 ≤ high ∧ high < 0xDC00 then
    match rest with
    | '\\' :: 'u' :: rest => do
        let (low, rest) ← codeUnit? rest
        if 0xDC00 ≤ low ∧ low < 0xE000 then
          some (Char.ofNat (0x10000 + (high - 0xD800) * 0x400 + (low - 0xDC00)), rest)
        else none
    | _ => none
  else if 0xDC00 ≤ high ∧ high < 0xE000 then none
  else some (Char.ofNat high, rest)

/-- The character that an escape letter stands for. -/
def escapedLetter? : Char → Option Char
  | '"' => some '"'
  | '\\' => some '\\'
  | '/' => some '/'
  | 'b' => some '\x08'
  | 'f' => some '\x0c'
  | 'n' => some '\n'
  | 'r' => some '\r'
  | 't' => some '\t'
  | _ => none

/-- Reads the rest of a string up to its closing quotation mark. -/
def stringRest? : Nat → List Char → Option (List Char × List Char)
  | 0, _ => none
  | fuel + 1, cs =>
      match cs with
      | [] => none
      | '"' :: rest => some ([], rest)
      | '\\' :: 'u' :: rest => do
          let (c, rest) ← escapedUnit? rest
          let (s, rest) ← stringRest? fuel rest
          some (c :: s, rest)
      | '\\' :: letter :: rest => do
          let c ← escapedLetter? letter
          let (s, rest) ← stringRest? fuel rest
          some (c :: s, rest)
      | c :: rest => do
          if c.toNat < 0x20 ∨ c = '\\' then none
          else
            let (s, rest) ← stringRest? fuel rest
            some (c :: s, rest)

/-- Reads the rest of a string, as text. -/
def string? (cs : List Char) : Option (String × List Char) :=
  (stringRest? (cs.length + 1) cs).map fun (s, rest) => (String.ofList s, rest)

def digits? (cs : List Char) : Option (List Char × List Char) :=
  match cs.takeWhile Char.isDigit with
  | [] => none
  | ds => some (ds, cs.dropWhile Char.isDigit)

/-- Reads the digits before the point; only zero itself starts with a zero. -/
def whole? (cs : List Char) : Option (List Char × List Char) :=
  match digits? cs with
  | some ('0' :: _ :: _, _) => none
  | other => other

def fraction? (cs : List Char) : Option (List Char × List Char) :=
  match cs with
  | '.' :: rest => (digits? rest).map fun (ds, rest) => ('.' :: ds, rest)
  | _ => some ([], cs)

def exponent? (cs : List Char) : Option (List Char × List Char) :=
  match cs with
  | e :: sign :: rest =>
      if e = 'e' ∨ e = 'E' then
        if sign = '+' ∨ sign = '-' then
          (digits? rest).map fun (ds, rest) => (e :: sign :: ds, rest)
        else (digits? (sign :: rest)).map fun (ds, rest) => (e :: ds, rest)
      else some ([], cs)
  | [c] => if c = 'e' ∨ c = 'E' then none else some ([], cs)
  | [] => some ([], [])

/-- Reads a number without its sign. -/
def unsigned? (cs : List Char) : Option (List Char × List Char) := do
  let (w, cs) ← whole? cs
  let (f, cs) ← fraction? cs
  let (e, cs) ← exponent? cs
  some (w ++ f ++ e, cs)

def number? (cs : List Char) : Option (String × List Char) :=
  match cs with
  | '-' :: rest => (unsigned? rest).map fun (ds, rest) => (String.ofList ('-' :: ds), rest)
  | _ => (unsigned? cs).map fun (ds, rest) => (String.ofList ds, rest)

mutual

/-- Reads a value behind blanks. -/
def value? : Nat → List Char → Option (Json × List Char)
  | 0, _ => none
  | fuel + 1, cs =>
      match skipBlanks cs with
      | '"' :: rest => (string? rest).map fun (s, rest) => (string s, rest)
      | '[' :: rest =>
          match skipBlanks rest with
          | ']' :: rest => some (array [], rest)
          | rest => (elements? fuel rest).map fun (xs, rest) => (array xs, rest)
      | '\x7b' :: rest =>
          match skipBlanks rest with
          | '\x7d' :: rest => some (object [], rest)
          | rest => (members? fuel rest).map fun (ms, rest) => (object ms, rest)
      | 'n' :: rest => (afterWord? ['u', 'l', 'l'] rest).map fun rest => (null, rest)
      | 't' :: rest => (afterWord? ['r', 'u', 'e'] rest).map fun rest => (bool true, rest)
      | 'f' :: rest => (afterWord? ['a', 'l', 's', 'e'] rest).map fun rest => (bool false, rest)
      | cs => (number? cs).map fun (ds, rest) => (number ds, rest)

def elements? : Nat → List Char → Option (List Json × List Char)
  | 0, _ => none
  | fuel + 1, cs => do
      let (x, rest) ← value? fuel cs
      match skipBlanks rest with
      | ']' :: rest => some ([x], rest)
      | ',' :: rest => do
          let (xs, rest) ← elements? fuel rest
          some (x :: xs, rest)
      | _ => none

def members? : Nat → List Char → Option (List (String × Json) × List Char)
  | 0, _ => none
  | fuel + 1, cs =>
      match skipBlanks cs with
      | '"' :: rest => do
          let (name, rest) ← string? rest
          match skipBlanks rest with
          | ':' :: rest => do
              let (x, rest) ← value? fuel rest
              match skipBlanks rest with
              | '\x7d' :: rest => some ([(name, x)], rest)
              | ',' :: rest => do
                  let (ms, rest) ← members? fuel rest
                  some ((name, x) :: ms, rest)
              | _ => none
          | _ => none
      | _ => none

end

def ofText? (text : String) : Option Json :=
  match value? (2 * text.length + 2) text.toList with
  | some (x, rest) => if skipBlanks rest = [] then some x else none
  | none => none

end Criteria.Json
