import CommittedParsing.Text.Decimal

namespace CommittedParsing

inductive Tag where
  | number (value : Nat)
  | text (value : String)
deriving DecidableEq

namespace Tag

def spell : Tag → List Char
  | .number value => Decimal.spell value
  | .text value => value.toList

def render (tag : Tag) : String := String.ofList tag.spell

-- Numbers by value, texts by code points, every number below every text.
def compare : Tag → Tag → Ordering
  | .number a,.number b => Ord.compare a b
  | .number _,.text _ => .lt
  | .text _,.number _ => .gt
  | .text a,.text b => Ord.compare a b

def compareLists : List Tag → List Tag → Ordering
  | [],[] => .eq
  | [],_ :: _ => .lt
  | _ :: _,[] => .gt
  | a :: as,b :: bs => (compare a b).then (compareLists as bs)

-- A finished version has no release tags and comes last.
def compareReleases (as bs : List Tag) : Ordering :=
  match as,bs with
  | [],[] => .eq
  | [],_ :: _ => .gt
  | _ :: _,[] => .lt
  | _ :: _,_ :: _ => compareLists as bs

def spellSection (marker : Char) : List Tag → List Char
  | [] => []
  | tag :: rest => marker :: tag.spell ++ spellSection '.' rest

end Tag

structure Version where
  major : Nat
  minor : Nat
  patch : Nat
  release : List Tag
  metadata : List Tag
deriving DecidableEq

namespace Version

def isPrerelease (v : Version) : Bool := !v.release.isEmpty

def compare (a b : Version) : Ordering :=
  (Ord.compare a.major b.major).then <| (Ord.compare a.minor b.minor).then <|
    (Ord.compare a.patch b.patch).then (Tag.compareReleases a.release b.release)

def samePrecedence (a b : Version) : Bool := a.compare b == .eq

def sort (versions : List Version) : List Version := versions.mergeSort fun a b => (a.compare b).isLE

def spell (v : Version) : List Char :=
  Decimal.spell v.major ++ '.' :: Decimal.spell v.minor ++ '.' :: Decimal.spell v.patch ++
    Tag.spellSection '-' v.release ++ Tag.spellSection '+' v.metadata

def render (v : Version) : String := String.ofList v.spell

end Version

end CommittedParsing
