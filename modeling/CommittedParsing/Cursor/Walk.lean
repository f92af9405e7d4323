import CommittedParsing.Cursor

namespace CommittedParsing

structure Walk where
  cursor : Cursor
  saved : List Cursor
deriving DecidableEq

namespace Walk

inductive Step where
  | advance
  | save
  | restore
deriving DecidableEq

def start (source : String) : Walk := ⟨Cursor.start source,[Cursor.start source]⟩

-- An advance at the end changes nothing; with nothing saved, a restore goes back to the start.
def step (walk : Walk) : Step → Walk
  | .advance =>
    match walk.cursor.advance with
    | .ok (_,next) => { walk with cursor := next }
    | .error _ => walk
  | .save => { walk with saved := walk.cursor :: walk.saved }
  | .restore =>
    match walk.saved with
    | [] => { walk with cursor := Cursor.start walk.cursor.source }
    | last :: others => ⟨last,others⟩

def run (walk : Walk) (steps : List Step) : Walk := steps.foldl step walk

def atSaved (walk : Walk) : Bool := walk.saved.head? == some walk.cursor

end Walk

end CommittedParsing
