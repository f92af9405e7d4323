import CommittedParsing.Failure

namespace CommittedParsing

inductive Event where
  | started (size : Nat)
  | failed (failure : Failure)
  -- The grammar succeeded and stopped at an offset before the end.
  | leftover (offset : Nat)
  | nameRepeated (header name : String)
  | sectionRepeated (header : String)
deriving DecidableEq

namespace Event

inductive Level where
  | trace
  | debug
deriving DecidableEq

def level : Event → Level
  | .started _ => .trace
  | _ => .debug

def message : Event → String
  | .started _ => "parsing input"
  | .failed _ => "parse failed"
  | .leftover _ => "input not fully consumed"
  | .nameRepeated .. => "name assigned twice, keeping the last value"
  | .sectionRepeated _ => "section repeated, replacing earlier one"

end Event

end CommittedParsing
