import CommittedParsing.Lexeme
import CommittedParsing.Parser.Span
import CommittedParsing.Parser.Entry
import CommittedParsing.Ini.Config

namespace CommittedParsing

namespace Ini

open CommittedParsing.Parser CommittedParsing.Lexeme

def header : Parser String := between (char '[') (many1 letter).recognize (char ']')

def assignment : Parser (String × String) :=
  (((many1 letter).recognize.left (char '=')).pair (many1 nonNewline).recognize).left skipLineEnds

-- Repeated names are reported as soon as the body has matched.
def sectionBody : Parser Section :=
  ((header.left skipLineEnds).pair (many1 assignment)).mapReporting Section.ofAssignments

def skipTrivia : Parser Unit := skipWhitespace.right skipComments

def paddedSection : Parser Section := skipTrivia.right sectionBody

-- Trivia is skipped behind each section, so that the last one may be followed by some.
def document : Parser Config :=
  (skipTrivia.right (many1 (sectionBody.left skipTrivia))).mapReporting Config.ofSections

end Ini

def Config.parse (text : String) : Reading Config := Ini.document.parseComplete text

end CommittedParsing
