import CommittedParsing.Lexeme
import CommittedParsing.Number.Fraction
import CommittedParsing.Parser.Choice
import CommittedParsing.Parser.Entry
import CommittedParsing.Parser.Span

namespace CommittedParsing

inductive Numeric where
  | float (value : Binary64)
  | fraction (value : Fraction)
deriving DecidableEq

namespace Numeric

def sameValue : Numeric → Numeric → Bool
  | .float a,.float b => a.sameValue b
  | .fraction a,.fraction b => a.sameValue b
  | _,_ => false

end Numeric

namespace Literal

open CommittedParsing.Parser CommittedParsing.Lexeme

def checkFraction (parts : Nat × Nat) : Except String Fraction :=
  match Fraction.of? parts.1 parts.2 with
  | some f => .ok f
  | none => .error "division by zero: denominator is 0"

def fraction : Parser Fraction := ((decimal.left (char '/')).pair decimal).tryMap checkFraction

def signedLimit : Nat := Nat.pow 2 127

def checkSigned (parts : Option Char × Nat) : Except String Int :=
  let value : Int := if parts.1.isSome then -parts.2 else parts.2
  if -(signedLimit : Int) ≤ value ∧ value < signedLimit then .ok value
  else .error ("integer out of range: " ++ parts.2.repr)

def signedInteger : Parser Int := ((optional (char '-')).pair decimal).tryMap checkSigned

def ofPointed? (negative : Bool) (text : List Char) : Option Binary64 :=
  let whole := text.takeWhile Char.isDigit
  match text.dropWhile Char.isDigit with
  | '.' :: places =>
    if whole ≠ [] ∧ places ≠ [] ∧ places.all Char.isDigit then
      some (.ofDecimal negative (Decimal.value (whole ++ places)) places.length)
    else none
  | _ => none

-- The number that a text spells. Spellings that no literal has are not read.
def ofText? : List Char → Option Binary64
  | '-' :: text => ofPointed? true text
  | text => ofPointed? false text

def readFloat (text : String) : Except String Binary64 :=
  match ofText? text.toList with
  | some x => .ok x
  | none => .error ("invalid floating point literal " ++ text ++ ": invalid float literal")

def floatText : Parser String :=
  ((((optional (char '-')).pair (many1 digit)).pair (char '.')).pair (many1 digit)).recognize

def float : Parser Binary64 := floatText.tryMap readFloat

-- A literal without a point is read again from its start as a fraction.
def numeric : Parser Numeric := ((float.map .float).attempt).orElse (fraction.map .fraction)

end Literal

def Fraction.parse (text : String) : Reading Fraction := Literal.fraction.parseComplete text

def Numeric.parse (text : String) : Reading Numeric := Literal.numeric.parseComplete text

end CommittedParsing
