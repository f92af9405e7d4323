import CommittedParsing.Lexeme
import CommittedParsing.Parser.Choice
import CommittedParsing.Parser.Span
import CommittedParsing.Parser.Entry
import CommittedParsing.Version.Basic

namespace CommittedParsing

namespace Version

open CommittedParsing.Parser CommittedParsing.Lexeme

def numberLimit : Nat := Nat.pow 2 64

def checkNumber (n : Nat) : Except String Nat :=
  if n < numberLimit then .ok n else .error ("version number too large: " ++ n.repr)

def number : Parser Nat := decimal.tryMap checkNumber

def tag : Parser Tag := (number.map .number).orElse ((many1 letter).recognize.map .text)

def tags : Parser (List Tag) := tag.separatedBy (char '.')

-- No marker means no tags; a marker commits to at least one.
def tagSection (marker : Char) : Parser (List Tag) := ((char marker).right tags).orElse (.pure [])

def assemble (parts : (((Nat × Nat) × Nat) × List Tag) × List Tag) : Version :=
  let ((((major,minor),patch),release),metadata) := parts
  ⟨major,minor,patch,release,metadata⟩

def grammar : Parser Version :=
  ((((((number.left (char '.')).pair number).left (char '.')).pair number).pair (tagSection '-')).pair
    (tagSection '+')).map assemble

def parse (text : String) : Reading Version := grammar.parseComplete text

end Version

end CommittedParsing
