import CommittedParsing.Parser.Character
import CommittedParsing.Parser.Sequence
import CommittedParsing.Parser.Repeat
import CommittedParsing.Text.Decimal

namespace CommittedParsing.Lexeme

open CommittedParsing.Parser

def digit : Parser Char := satisfy Char.isDigit "digit"

def letter : Parser Char := satisfy Char.isAlpha "letter"

def nonNewline : Parser Char := satisfy (· != '\n') "any character except newline"

-- The largest number is one less than this.
def decimalLimit : Nat := Nat.pow 2 128

def checkDecimal (digits : List Char) : Except String Nat :=
  match Decimal.valueBelow? decimalLimit digits with
  | some n => .ok n
  | none => .error ("number too large: " ++ String.ofList digits)

def decimal : Parser Nat := (many1 digit).tryMap checkDecimal

def skipWhitespace : Parser Unit := (many (oneOf " \n")).map fun _ => ()

def skipLineEnds : Parser Unit := (many (char '\n')).map fun _ => ()

def commentMarkers : String := ";#"

-- From the marker to the end of the line, then the blanks and line ends after it.
def comment : Parser ((Char × List Char) × Unit) :=
  ((oneOf commentMarkers).pair (many nonNewline)).pair skipWhitespace

def skipComments : Parser Unit := (many comment).map fun _ => ()

end CommittedParsing.Lexeme
