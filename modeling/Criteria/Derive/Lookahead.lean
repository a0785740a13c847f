import Criteria.Derive.Token

/-!
# Looking ahead

What the tokens ahead start with. A grammar of declarations never needs more
than three of them to decide. A sign of several characters needs them without a
gap between; a longer sign starts with a shorter one, as `<=` does with `<`.
-/

namespace Criteria.Derive

/-- The tokens start with the given signs, without gaps between. -/
def aheadSigns : List Char → List Token → Bool
  | [], _ => true
  | [c], .sign d _ :: _ => c == d
  | c :: cs, .sign d true :: rest => c == d && aheadSigns cs rest
  | _, _ => false

/-- The tokens start with a sign of one or more characters. -/
def aheadSign (s : String) (ts : List Token) : Bool := aheadSigns s.toList ts

/-- The tokens start with the given word, written plainly. -/
def aheadWord (text : String) : List Token → Bool
  | .word w :: _ => w.is text
  | _ => false

/-- The tokens start with one of the given words. -/
def aheadOneOf (texts : List String) (ts : List Token) : Bool := texts.any (aheadWord · ts)

/-- The tokens start with a word, whichever. -/
def aheadAnyWord : List Token → Bool
  | .word _ :: _ => true
  | _ => false

/-- The tokens start with a word that may be a name. -/
def aheadName : List Token → Bool
  | .word w :: _ => w.isName
  | _ => false

def aheadLifetime : List Token → Bool
  | .lifetime _ :: _ => true
  | _ => false

/-- The tokens start with a group in the given delimiters. -/
def aheadGroup (d : Delimiter) : List Token → Bool
  | .group e _ :: _ => d == e
  | _ => false

/-- Number of tokens of the literal that the tokens start with; 0 if they start
with none. The two truth values are literals, and a minus sign belongs to the
number behind it. -/
def literalLength : List Token → Nat
  | .literal _ :: _ => 1
  | .word w :: _ => if w.is "true" || w.is "false" then 1 else 0
  | .sign '-' _ :: .literal l :: _ => if l.isNumber then 2 else 0
  | _ => 0

def aheadLiteral (ts : List Token) : Bool := literalLength ts != 0

def aheadText : List Token → Bool
  | .literal ⟨_, .text _⟩ :: _ => true
  | _ => false

def aheadColons (ts : List Token) : Bool := aheadSign "::" ts

def aheadColon (ts : List Token) : Bool := aheadSign ":" ts && !aheadColons ts

/-- The tokens start with a name, or with the word for a module or a type that a
path may start with. -/
def aheadPathWord (ts : List Token) : Bool :=
  aheadName ts || aheadOneOf ["super", "self", "Self", "crate"] ts

/-- The tokens behind a plain path, without arguments; none if there is no such
path ahead. At most `fuel` segments are taken. -/
def behindPlainPath? : Nat → List Token → Option (List Token)
  | 0, _ => none
  | fuel + 1, ts =>
      if aheadPathWord ts then
        let rest := ts.drop 1
        if aheadColons rest then behindPlainPath? fuel (rest.drop 2) else some rest
      else none

end Criteria.Derive
