import CommittedParsing.Location

namespace CommittedParsing

inductive Cause where
  | unexpected (expected found : String)
  | endOfInput (expected : String)
  -- Well-formed text that breaks a rule of its domain.
  | rejected (message : String)
  | trailing (found : Char)
  -- A repeated reader succeeded without advancing.
  | noProgress
deriving DecidableEq

structure Fault where
  cause : Cause
  location : Location
deriving DecidableEq

def Fault.message (fault : Fault) : String :=
  let place := fault.location.describe
  match fault.cause with
  | .unexpected expected found => "syntax error at " ++ place ++ ": expected " ++ expected ++ ", found " ++ found
  | .endOfInput expected => "unexpected end of input at " ++ place ++ ": expected " ++ expected
  | .rejected message => "invalid value at " ++ place ++ ": " ++ message
  | .trailing found => "unexpected trailing input at " ++ place ++ ": found '" ++ String.singleton found ++ "'"
  | .noProgress => "repeated parser made no progress at " ++ place

structure Failure where
  fault : Fault
  consumed : Bool
deriving DecidableEq

namespace Failure

def clean (cause : Cause) (location : Location) : Failure := ⟨⟨cause,location⟩,false⟩

-- Commits the failure when the surrounding reader had advanced already.
def consumedIf (failure : Failure) (advanced : Bool) : Failure :=
  { failure with consumed := failure.consumed || advanced }

def rewind (failure : Failure) : Failure := { failure with consumed := false }

def position (failure : Failure) : Nat := failure.fault.location.offset

def message (failure : Failure) : String := failure.fault.message

def report (failure : Failure) : String :=
  failure.message ++ "\n" ++ String.join (failure.fault.location.contextLines.map ("\n" ++ ·))

@[simp] theorem consumedIf_fault (failure : Failure) (advanced : Bool) :
    (failure.consumedIf advanced).fault = failure.fault := rfl

@[simp] theorem consumedIf_consumed (failure : Failure) (advanced : Bool) :
    (failure.consumedIf advanced).consumed = (failure.consumed || advanced) := rfl

@[simp] theorem consumedIf_false (failure : Failure) : failure.consumedIf false = failure := by
  cases failure
  simp [consumedIf]

theorem consumedIf_committed {failure : Failure} (committed : failure.consumed = true) (advanced : Bool) :
    failure.consumedIf advanced = failure := by
  cases failure
  simp_all [consumedIf]

theorem consumedIf_consumedIf (failure : Failure) (first second : Bool) :
    (failure.consumedIf first).consumedIf second = failure.consumedIf (first || second) := by
  simp [consumedIf,Bool.or_assoc]

@[simp] theorem rewind_fault (failure : Failure) : failure.rewind.fault = failure.fault := rfl

@[simp] theorem rewind_consumed (failure : Failure) : failure.rewind.consumed = false := rfl

end Failure

end CommittedParsing
