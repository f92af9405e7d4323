import CommittedParsing.Parser.Basic

namespace CommittedParsing.Parser

variable {α β γ : Type}

-- Once the first part has advanced, the failure of the second counts as consumed, so that a choice does not go back
-- past a partial match.
def pair (first : Parser α) (second : Parser β) : Parser (α × β) := ⟨fun cursor =>
  (first.run cursor).andThen fun value middle =>
    ((second.run middle).consumedIf (cursor.position < middle.position)).map fun later => (value,later)⟩

def left (first : Parser α) (second : Parser β) : Parser α := (first.pair second).map Prod.fst

def right (first : Parser α) (second : Parser β) : Parser β := (first.pair second).map Prod.snd

-- Progress is measured from the start of the opening.
def between (opening : Parser α) (content : Parser β) (closing : Parser γ) : Parser β := ⟨fun start =>
  (opening.run start).andThen fun _ opened =>
    ((content.run opened).consumedIf (start.position < opened.position)).andThen fun value filled =>
      ((closing.run filled).consumedIf (start.position < filled.position)).map fun _ => value⟩

end CommittedParsing.Parser
