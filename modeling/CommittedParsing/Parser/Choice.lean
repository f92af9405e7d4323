import CommittedParsing.Parser.Basic

namespace CommittedParsing.Parser

variable {α : Type}

-- The second branch runs only when the first failed without consuming; the first failure is dropped.
def orElse (first second : Parser α) : Parser α := ⟨fun cursor =>
  (first.run cursor).recover fun failure => if failure.consumed then .failure failure else second.run cursor⟩

def attempt (parser : Parser α) : Parser α := ⟨fun cursor => (parser.run cursor).mapFailure Failure.rewind⟩

-- Any failure, consumed or not, gives no value at the cursor that was kept.
def optional (parser : Parser α) : Parser (Option α) := ⟨fun cursor =>
  ((parser.run cursor).map Option.some).recover fun _ => .success none cursor⟩

end CommittedParsing.Parser
