import CommittedParsing.Text.Bytes
import CommittedParsing.Text.Lines

namespace CommittedParsing

structure Location where
  text : String
  offset : Nat
deriving DecidableEq

-- Lines count from one, byte offsets within the line from zero.
structure LinePosition where
  line : Nat
  byteOffset : Nat
deriving DecidableEq

namespace Location

-- An offset past the end still names a place; one inside a character does not.
def at? (text : String) (offset : Nat) : Option Location :=
  if text.utf8ByteSize ≤ offset ∨ Text.isBoundary offset text.toList then some ⟨text,offset⟩ else none

def before (place : Location) : List Char := Text.takeBytes place.offset place.text.toList

def lineStart (place : Location) : Nat :=
  Text.byteLength place.before - Text.byteLength (Text.lastLine place.before)

def linePosition (place : Location) : LinePosition :=
  ⟨place.before.count '\n' + 1,place.offset - place.lineStart⟩

def describe (place : Location) : String :=
  "line " ++ place.linePosition.line.repr ++ ", byte offset " ++ place.linePosition.byteOffset.repr

def margin (marked : Bool) (number : Nat) : String :=
  (if marked then "  > " else "    ") ++ number.repr ++ " | "

-- Two lines either side; an empty line below the marked one is not shown.
def isShown (here : LinePosition) (number : Nat) (content : List Char) : Bool :=
  here.line ≤ number + 2 && number ≤ here.line + 2 && !(content.isEmpty && here.line < number)

def pointer (width : Nat) : String := String.ofList (List.replicate width ' ') ++ "^--- here"

def contextRows (here : LinePosition) (number : Nat) (content : List Char) : List String :=
  let marked := number == here.line
  let row := margin marked number ++ String.ofList content
  if !isShown here number content then []
  else if marked then [row,pointer ((margin marked number).utf8ByteSize + here.byteOffset)]
  else [row]

def contextLines (place : Location) : List String :=
  ((Text.lines place.text.toList).zipIdx 1).flatMap fun (content,number) =>
    contextRows place.linePosition number content

end Location

end CommittedParsing
