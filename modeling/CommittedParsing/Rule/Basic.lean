import CommittedParsing.Ini.Grammar
import CommittedParsing.Rule.Value
import CommittedParsing.Version.Grammar

namespace CommittedParsing

mutual

inductive Rule where
  | anyChar
  | char (expected : Char)
  | oneOf (set : String)
  | noneOf (set : String)
  | range (low high : Char) (expected : String)
  | digit
  | letter
  | nonNewline
  | decimal
  | skipWhitespace
  | skipLineEnds
  | skipComments
  | eof
  | succeed (value : Value)
  | fail (message : String)
  | bytesLeft
  | pair (first second : Rule)
  | left (first second : Rule)
  | right (first second : Rule)
  | orElse (first second : Rule)
  | attempt (rule : Rule)
  | many (rule : Rule)
  | many1 (rule : Rule)
  | separatedBy (item separator : Rule)
  | optional (rule : Rule)
  | enclosed (opening content closing : Rule)
  | span (rule : Rule)
  | recognize (rule : Rule)
  | map (rule : Rule) (mapping : Value.Mapping)
  | tryMap (rule : Rule) (check : Value.Check)
  | again (rule : Rule)
  | cases (rule : Rule) (branches : Branches)
  | call (name : String)
  | fraction
  | signedInteger
  | float
  | numeric
  | tag
  | tags
  | version
  | header
  | assignment
  | paddedSection
  | document

-- Rules to go on with, by the flat text of a value.
inductive Branches where
  | none
  | case (key : String) (rule : Rule) (rest : Branches)

end

mutual

def Rule.parser (call : String → Parser Value) : Rule → Parser Value
  | .anyChar => Parser.anyChar.map .char
  | .char expected => (Parser.char expected).map .char
  | .oneOf set => (Parser.oneOf set).map .char
  | .noneOf set => (Parser.noneOf set).map .char
  | .range low high expected => (Parser.satisfy (fun c => low ≤ c && c ≤ high) expected).map .char
  | .digit => Lexeme.digit.map .char
  | .letter => Lexeme.letter.map .char
  | .nonNewline => Lexeme.nonNewline.map .char
  | .decimal => Lexeme.decimal.map .natural
  | .skipWhitespace => Lexeme.skipWhitespace.map fun _ => .unit
  | .skipLineEnds => Lexeme.skipLineEnds.map fun _ => .unit
  | .skipComments => Lexeme.skipComments.map fun _ => .unit
  | .eof => Parser.eof.map fun _ => .unit
  | .succeed value => .pure value
  | .fail message => .fail message
  | .bytesLeft => ⟨fun cursor => .success (.natural cursor.remaining) cursor⟩
  | .pair first second => ((first.parser call).pair (second.parser call)).map fun (a,b) => .pair a b
  | .left first second => (first.parser call).left (second.parser call)
  | .right first second => (first.parser call).right (second.parser call)
  | .orElse first second => (first.parser call).orElse (second.parser call)
  | .attempt rule => (rule.parser call).attempt
  | .many rule => (rule.parser call).many.map .list
  | .many1 rule => (rule.parser call).many1.map .list
  | .separatedBy item separator => ((item.parser call).separatedBy (separator.parser call)).map .list
  | .optional rule => (rule.parser call).optional.map .ofOption
  | .enclosed opening content closing =>
    Parser.between (opening.parser call) (content.parser call) (closing.parser call)
  | .span rule => (rule.parser call).withSpan.map fun (value,span) => .spanned value span
  | .recognize rule => (rule.parser call).recognize.map .text
  | .map rule mapping => (rule.parser call).map mapping.apply
  | .tryMap rule check => (rule.parser call).tryMap check.apply
  | .again rule => (rule.parser call).bind fun value => (Parser.char (value.flat.headD '\x00')).map .char
  | .cases rule branches => (rule.parser call).bind fun value => branches.parser call value.flatText
  | .call name => ⟨fun cursor => (call name).run cursor⟩
  | .fraction => Literal.fraction.map .fraction
  | .signedInteger => Literal.signedInteger.map .integer
  | .float => Literal.float.map .float
  | .numeric => Literal.numeric.map .ofNumeric
  | .tag => Version.tag.map .tag
  | .tags => Version.tags.map fun items => .list (items.map .tag)
  | .version => Version.grammar.map .version
  | .header => Ini.header.map .header
  | .assignment => Ini.assignment.map fun (name,value) => .assignment name value
  | .paddedSection => Ini.paddedSection.map .sectionEntry
  | .document => Ini.document.map .config

def Branches.parser (call : String → Parser Value) : Branches → String → Parser Value
  | .none,key => .fail ("no case for " ++ key)
  | .case name rule rest,key => if name = key then rule.parser call else rest.parser call key

end

structure RuleSet where
  main : Rule
  definitions : List (String × Rule)

namespace RuleSet

def callWithin (rules : RuleSet) : Nat → String → Parser Value
  | 0,name => .fail ("no end of calls: " ++ name)
  | depth + 1,name =>
    match rules.definitions.lookup name with
    | none => .fail ("no definition: " ++ name)
    | some rule => rule.parser (rules.callWithin depth)

-- Without progress no definition is entered again, so each is entered at most once at each place of the text.
def depthFor (rules : RuleSet) (text : String) : Nat := rules.definitions.length * (text.utf8ByteSize + 1) + 1

def parserFor (rules : RuleSet) (text : String) : Parser Value :=
  rules.main.parser (rules.callWithin (rules.depthFor text))

def parse (rules : RuleSet) (text : String) : Reply Value := (rules.parserFor text).parse text

def parseComplete (rules : RuleSet) (text : String) : Reading Value := (rules.parserFor text).parseComplete text

-- Runs at a later place of the text; nothing is reported about the start or the failure.
def runAt (rules : RuleSet) (text : String) (characters : Nat) : Reply Value :=
  (rules.parserFor text).run ((Cursor.start text).skip characters)

end RuleSet

end CommittedParsing
