import CommittedParsing.Event
import CommittedParsing.Ini.Table

namespace CommittedParsing

structure Section where
  header : String
  assignments : Table String
deriving DecidableEq

namespace Section

-- Assigning a name again replaces its value and is reported.
def assignAll (header : String) (table : Table String) : List (String × String) → Table String × List Event
  | [] => (table,[])
  | (name,value) :: rest =>
    let (final,later) := assignAll header (table.insert name value) rest
    (final,if table.contains name then .nameRepeated header name :: later else later)

def ofAssignments (parts : String × List (String × String)) : Section × List Event :=
  let (table,events) := assignAll parts.1 .empty parts.2
  (⟨parts.1,table⟩,events)

end Section

structure Config where
  sections : Table (Table String)
deriving DecidableEq

namespace Config

def empty : Config := ⟨.empty⟩

def insert (config : Config) (entry : Section) : Config := ⟨config.sections.insert entry.header entry.assignments⟩

-- A repeated section replaces the earlier one as a whole and is reported.
def addAll (config : Config) : List Section → Config × List Event
  | [] => (config,[])
  | entry :: rest =>
    let (final,later) := addAll (config.insert entry) rest
    (final,if config.sections.contains entry.header then .sectionRepeated entry.header :: later else later)

def ofSections (entries : List Section) : Config × List Event := addAll empty entries

def get? (config : Config) (header : String) : Option (Table String) := config.sections.get? header

def section? (config : Config) (header : String) : Option (String × Table String) := config.sections.find? header

def value? (config : Config) (header name : String) : Option String :=
  (config.get? header).bind fun assignments => assignments.get? name

def headers (config : Config) : List String := config.sections.keys

def size (config : Config) : Nat := config.sections.size

def isEmpty (config : Config) : Bool := config.sections.isEmpty

end Config

end CommittedParsing
