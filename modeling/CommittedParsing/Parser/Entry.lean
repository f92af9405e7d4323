import CommittedParsing.Parser.Character

namespace CommittedParsing

structure Reading (α : Type) where
  result : Except Failure α
  events : List Event

namespace Parser

variable {α : Type}

def parse (parser : Parser α) (text : String) : Reply α :=
  let reply := parser.run (Cursor.start text)
  let opening := Event.started text.utf8ByteSize
  match reply.outcome with
  | .success .. => ⟨reply.outcome,opening :: reply.events⟩
  | .failure failure => ⟨reply.outcome,opening :: reply.events ++ [.failed failure]⟩

-- Requires that nothing is left over; the leftover failure is consumed unless nothing was read.
def parseComplete (parser : Parser α) (text : String) : Reading α :=
  let reply := parser.parse text
  match reply.outcome with
  | .failure failure => ⟨.error failure,reply.events⟩
  | .success value stop =>
    match (eof.run stop).outcome with
    | .success .. => ⟨.ok value,reply.events⟩
    | .failure failure =>
      ⟨.error (failure.consumedIf (0 < stop.position)),reply.events ++ [.leftover stop.position]⟩

end Parser

end CommittedParsing
