import CommittedParsing.Parser.Basic

namespace CommittedParsing

structure Span where
  source : String
  start : Nat
  stop : Nat
deriving DecidableEq

namespace Span

def length (span : Span) : Nat := span.stop - span.start

def isEmpty (span : Span) : Bool := span.start == span.stop

-- The covered text; a span that is reversed, too long or cuts a character covers none.
def text? (span : Span) : Option String :=
  (Text.slice? span.start span.stop span.source.toList).map String.ofList

end Span

namespace Parser

variable {α : Type}

def withSpan (parser : Parser α) : Parser (α × Span) := ⟨fun cursor =>
  (parser.run cursor).andThen fun value stop =>
    .success (value,⟨cursor.source,cursor.position,stop.position⟩) stop⟩

def recognize (parser : Parser α) : Parser String := ⟨fun cursor =>
  (parser.run cursor).andThen fun _ stop => .success (cursor.textUpTo stop) stop⟩

end Parser

end CommittedParsing
