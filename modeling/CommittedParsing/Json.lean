import CommittedParsing.Ini.Config
import CommittedParsing.Number.Fraction
import CommittedParsing.Version.Basic

namespace CommittedParsing

namespace Json

def hexByte (n : Nat) : List Char := [(n / 16).digitChar,(n % 16).digitChar]

-- Only quotes, backslashes and the controls below the blank are escaped.
def escape (c : Char) : List Char :=
  if c = '"' then ['\\','"']
  else if c = '\\' then ['\\','\\']
  else if c = '\x08' then ['\\','b']
  else if c = '\x0c' then ['\\','f']
  else if c = '\n' then ['\\','n']
  else if c = '\r' then ['\\','r']
  else if c = '\t' then ['\\','t']
  else if c.toNat < 0x20 then ['\\','u','0','0'] ++ hexByte c.toNat
  else [c]

def text (s : String) : List Char := '"' :: s.toList.flatMap escape ++ ['"']

def number (n : Nat) : List Char := Decimal.spell n

def commas : List (List Char) → List Char
  | [] => []
  | [item] => item
  | item :: rest => item ++ ',' :: commas rest

def array (items : List (List Char)) : List Char := '[' :: commas items ++ [']']

def field (entry : String × List Char) : List Char := text entry.1 ++ ':' :: entry.2

def object (fields : List (String × List Char)) : List Char := '\x7b' :: commas (fields.map field) ++ ['\x7d']

def ofTag : Tag → List Char
  | .number value => number value
  | .text value => text value

def ofFraction (f : Fraction) : List Char :=
  object [("numerator",number f.numerator),("denominator",number f.denominator)]

def ofVersion (v : Version) : List Char :=
  object [("major",number v.major),("minor",number v.minor),("patch",number v.patch),
    ("release",array (v.release.map ofTag)),("metadata",array (v.metadata.map ofTag))]

def ofAssignments (assignments : Table String) : List Char :=
  object (assignments.entries.map fun (name,value) => (name,text value))

def ofConfig (config : Config) : List Char :=
  object (config.sections.entries.map fun (header,assignments) => (header,ofAssignments assignments))

end Json

def Fraction.json (f : Fraction) : String := String.ofList (Json.ofFraction f)

def Version.json (v : Version) : String := String.ofList (Json.ofVersion v)

def Config.json (config : Config) : String := String.ofList (Json.ofConfig config)

end CommittedParsing
