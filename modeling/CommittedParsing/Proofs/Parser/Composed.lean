import CommittedParsing.Parser.Repeat
import CommittedParsing.Parser.Character
import CommittedParsing.Parser.Choice
import CommittedParsing.Parser.Sequence
import CommittedParsing.Parser.Span

namespace CommittedParsing.Parser

-- Which of the parsers with a special effect on failures or values may occur.
structure Allowance where
  attempt : Bool
  optional : Bool
  span : Bool
  check : Bool
deriving DecidableEq

namespace Allowance

def everything : Allowance := ⟨true,true,true,true⟩

end Allowance

-- The functions that map, check or choose a next parser are arbitrary, but a chosen parser is composed itself.
inductive Composed (allowed : Allowance) : {α : Type} → Parser α → Prop where
  | satisfy (test : Char → Bool) (expected : String) : Composed allowed (satisfy test expected)
  | eof : Composed allowed eof
  | pure {α : Type} (value : α) : Composed allowed (Parser.pure value)
  | fail {α : Type} (message : String) : Composed allowed (Parser.fail message : Parser α)
  | map {α β : Type} {parser : Parser α} (f : α → β) : Composed allowed parser → Composed allowed (parser.map f)
  | mapReporting {α β : Type} {parser : Parser α} (f : α → β × List Event) : Composed allowed parser →
      Composed allowed (parser.mapReporting f)
  | tryMap {α β : Type} {parser : Parser α} (convert : α → Except String β) : allowed.check = true →
      Composed allowed parser → Composed allowed (parser.tryMap convert)
  | bind {α β : Type} {parser : Parser α} {next : α → Parser β} : Composed allowed parser →
      (∀ value, Composed allowed (next value)) → Composed allowed (parser.bind next)
  | pair {α β : Type} {first : Parser α} {second : Parser β} : Composed allowed first → Composed allowed second →
      Composed allowed (first.pair second)
  | between {α β γ : Type} {opening : Parser α} {content : Parser β} {closing : Parser γ} :
      Composed allowed opening → Composed allowed content → Composed allowed closing →
      Composed allowed (between opening content closing)
  | orElse {α : Type} {first second : Parser α} : Composed allowed first → Composed allowed second →
      Composed allowed (first.orElse second)
  | attempt {α : Type} {parser : Parser α} : allowed.attempt = true → Composed allowed parser →
      Composed allowed parser.attempt
  | optional {α : Type} {parser : Parser α} : allowed.optional = true → Composed allowed parser →
      Composed allowed parser.optional
  | many {α : Type} {parser : Parser α} : Composed allowed parser → Composed allowed parser.many
  | many1 {α : Type} {parser : Parser α} : Composed allowed parser → Composed allowed parser.many1
  | separatedBy {α β : Type} {item : Parser α} {separator : Parser β} : Composed allowed item →
      Composed allowed separator → Composed allowed (item.separatedBy separator)
  | withSpan {α : Type} {parser : Parser α} : allowed.span = true → Composed allowed parser →
      Composed allowed parser.withSpan
  | recognize {α : Type} {parser : Parser α} : Composed allowed parser → Composed allowed parser.recognize

variable {allowed : Allowance} {α β : Type} {first : Parser α} {second : Parser β}

theorem composed_left (before : Composed allowed first) (after : Composed allowed second) :
    Composed allowed (first.left second) := .map _ (.pair before after)

theorem composed_right (before : Composed allowed first) (after : Composed allowed second) :
    Composed allowed (first.right second) := .map _ (.pair before after)

end CommittedParsing.Parser
