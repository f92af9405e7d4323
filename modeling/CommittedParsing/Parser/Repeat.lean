import CommittedParsing.Parser.Basic

namespace CommittedParsing.Parser

variable {α β : Type}

def stuck (start cursor : Cursor) : Failure :=
  (Failure.clean .noProgress cursor.location).consumedIf (start.position < cursor.position)

-- Ends at a failure that consumed nothing, and hands on one that did. A success that did not advance is refused, since
-- it would repeat forever; that failure has consumed if the loop is past `start`, where its owner began.
def repeatFrom (parser : Parser α) (start cursor : Cursor) : Reply (List α) :=
  let reply := parser.run cursor
  match reply.outcome with
  | .failure failure =>
    if failure.consumed then ⟨.failure failure,reply.events⟩ else ⟨.success [] cursor,reply.events⟩
  | .success value next =>
    if next.remaining < cursor.remaining then
      let later := repeatFrom parser start next
      ⟨(later.map (value :: ·)).outcome,reply.events ++ later.events⟩
    else ⟨.failure (stuck start cursor),reply.events⟩
termination_by cursor.remaining

def many (parser : Parser α) : Parser (List α) := ⟨fun cursor => repeatFrom parser cursor cursor⟩

def many1 (parser : Parser α) : Parser (List α) := ⟨fun start =>
  (parser.run start).andThen fun value next => (repeatFrom parser start next).map (value :: ·)⟩

-- A matched separator requires an item.
def separatedFrom (item : Parser α) (separator : Parser β) (start cursor : Cursor) : Reply (List α) :=
  let between := separator.run cursor
  match between.outcome with
  | .failure failure =>
    if failure.consumed then ⟨.failure failure,between.events⟩ else ⟨.success [] cursor,between.events⟩
  | .success _ after =>
    let reply := (item.run after).consumedIf (start.position < after.position)
    match reply.outcome with
    | .failure failure => ⟨.failure failure,between.events ++ reply.events⟩
    | .success value next =>
      if next.remaining < cursor.remaining then
        let later := separatedFrom item separator start next
        ⟨(later.map (value :: ·)).outcome,between.events ++ reply.events ++ later.events⟩
      else ⟨.failure (stuck start cursor),between.events ++ reply.events⟩
termination_by cursor.remaining

def separatedBy (item : Parser α) (separator : Parser β) : Parser (List α) := ⟨fun start =>
  (item.run start).andThen fun value next => (separatedFrom item separator start next).map (value :: ·)⟩

end CommittedParsing.Parser
