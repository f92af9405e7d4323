import CommittedParsing.Ini.Config
import CommittedParsing.Number.Literal
import CommittedParsing.Parser.Span
import CommittedParsing.Version.Basic

namespace CommittedParsing

inductive Value where
  | unit
  | char (value : Char)
  | text (value : String)
  | natural (value : Nat)
  | integer (value : Int)
  | float (value : Binary64)
  | fraction (value : Fraction)
  | list (items : List Value)
  | pair (first second : Value)
  | none
  | some (value : Value)
  | spanned (value : Value) (span : Span)
  | tag (value : Tag)
  | version (value : Version)
  | header (value : String)
  | assignment (name value : String)
  | sectionEntry (value : Section)
  | config (value : Config)

namespace Value

mutual

-- Characters, texts and integers as written, composed values as their parts in order, all else nothing.
def flat : Value → List Char
  | .char value => [value]
  | .text value => value.toList
  | .natural value => Decimal.spell value
  | .integer value => Decimal.spellSigned value
  | .list items => flatAll items
  | .pair first second => first.flat ++ second.flat
  | .some value => value.flat
  | .spanned value _ => value.flat
  | _ => []

def flatAll : List Value → List Char
  | [] => []
  | item :: rest => item.flat ++ flatAll rest

end

def flatText (value : Value) : String := String.ofList value.flat

inductive Mapping where
  | flat
  | unit
  | length
  | upper
  | first
  | second
deriving DecidableEq

def Mapping.apply : Mapping → Value → Value
  | .flat,value => .text value.flatText
  | .unit,_ => .unit
  | .length,.list items => .natural items.length
  | .length,value => .natural value.flat.length
  | .upper,value => .text (String.ofList (value.flat.map Char.toUpper))
  | .first,.pair a _ => a
  | .first,value => value
  | .second,.pair _ b => b
  | .second,value => value

inductive Check where
  | byte
  | nonempty
  | reject
deriving DecidableEq

def Check.apply : Check → Value → Except String Value
  | .byte,.natural n => if n < 256 then .ok (.natural n) else .error "too big for a byte"
  | .byte,_ => .error "too big for a byte"
  | .nonempty,value => if value.flat.isEmpty then .error "empty" else .ok (.text value.flatText)
  | .reject,value => .error ("rejected: " ++ value.flatText)

def ofNumeric : Numeric → Value
  | .float value => .float value
  | .fraction value => .fraction value

def ofOption : Option Value → Value
  | Option.none => .none
  | Option.some value => .some value

end Value

end CommittedParsing
