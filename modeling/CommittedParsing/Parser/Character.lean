import CommittedParsing.Parser.Basic
import CommittedParsing.Text.Quoted

namespace CommittedParsing.Parser

def satisfy (test : Char → Bool) (expected : String) : Parser Char := ⟨fun cursor =>
  match cursor.advance with
  | .error _ => .failure (.clean (.endOfInput expected) cursor.location)
  | .ok (c,next) =>
    if test c then .success c next
    else .failure (.clean (.unexpected expected (Text.quotedChar c)) cursor.location)⟩

def anyChar : Parser Char := satisfy (fun _ => true) "any character"

def char (expected : Char) : Parser Char := satisfy (· == expected) (Text.quotedChar expected)

def oneOf (set : String) : Parser Char := satisfy (set.toList.contains ·) ("one of " ++ Text.quotedText set)

def noneOf (set : String) : Parser Char := satisfy (!set.toList.contains ·) ("none of " ++ Text.quotedText set)

def eof : Parser Unit := ⟨fun cursor =>
  match cursor.peek? with
  | none => .success () cursor
  | some found => .failure (.clean (.trailing found) cursor.location)⟩

end CommittedParsing.Parser
