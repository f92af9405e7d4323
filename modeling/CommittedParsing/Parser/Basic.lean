import CommittedParsing.Cursor
import CommittedParsing.Event

namespace CommittedParsing

-- A failure holds no cursor, so the caller resumes from the one that it kept.
inductive Outcome (α : Type) where
  | success (value : α) (stop : Cursor)
  | failure (failure : Failure)
deriving DecidableEq

structure Reply (α : Type) where
  outcome : Outcome α
  events : List Event
deriving DecidableEq

structure Parser (α : Type) where
  run : Cursor → Reply α

namespace Reply

variable {α β γ : Type}

def success (value : α) (stop : Cursor) : Reply α := ⟨.success value stop,[]⟩

def failure (failure : Failure) : Reply α := ⟨.failure failure,[]⟩

def andThen (reply : Reply α) (next : α → Cursor → Reply β) : Reply β :=
  match reply.outcome with
  | .failure failure => ⟨.failure failure,reply.events⟩
  | .success value stop =>
    let later := next value stop
    ⟨later.outcome,reply.events ++ later.events⟩

def recover (reply : Reply α) (other : Failure → Reply α) : Reply α :=
  match reply.outcome with
  | .success .. => reply
  | .failure failure =>
    let later := other failure
    ⟨later.outcome,reply.events ++ later.events⟩

def map (f : α → β) (reply : Reply α) : Reply β :=
  match reply.outcome with
  | .success value stop => ⟨.success (f value) stop,reply.events⟩
  | .failure failure => ⟨.failure failure,reply.events⟩

def mapFailure (f : Failure → Failure) (reply : Reply α) : Reply α :=
  match reply.outcome with
  | .success .. => reply
  | .failure failure => ⟨.failure (f failure),reply.events⟩

def consumedIf (reply : Reply α) (advanced : Bool) : Reply α := reply.mapFailure (·.consumedIf advanced)

@[simp] theorem andThen_success (value : α) (stop : Cursor) (events : List Event) (next : α → Cursor → Reply β) :
    andThen ⟨.success value stop,events⟩ next = ⟨(next value stop).outcome,events ++ (next value stop).events⟩ := rfl

@[simp] theorem andThen_failure (failed : Failure) (events : List Event) (next : α → Cursor → Reply β) :
    andThen ⟨.failure failed,events⟩ next = ⟨.failure failed,events⟩ := rfl

@[simp] theorem recover_success (value : α) (stop : Cursor) (events : List Event) (other : Failure → Reply α) :
    recover ⟨.success value stop,events⟩ other = ⟨.success value stop,events⟩ := rfl

@[simp] theorem recover_failure (failed : Failure) (events : List Event) (other : Failure → Reply α) :
    recover ⟨.failure failed,events⟩ other = ⟨(other failed).outcome,events ++ (other failed).events⟩ := rfl

@[simp] theorem map_success (f : α → β) (value : α) (stop : Cursor) (events : List Event) :
    map f ⟨.success value stop,events⟩ = ⟨.success (f value) stop,events⟩ := rfl

@[simp] theorem map_failure (f : α → β) (failed : Failure) (events : List Event) :
    map f ⟨.failure failed,events⟩ = ⟨.failure failed,events⟩ := rfl

@[simp] theorem mapFailure_success (f : Failure → Failure) (value : α) (stop : Cursor) (events : List Event) :
    mapFailure f ⟨.success value stop,events⟩ = ⟨.success value stop,events⟩ := rfl

@[simp] theorem mapFailure_failure (f : Failure → Failure) (failed : Failure) (events : List Event) :
    mapFailure f (⟨.failure failed,events⟩ : Reply α) = ⟨.failure (f failed),events⟩ := rfl

@[simp] theorem consumedIf_success (advanced : Bool) (value : α) (stop : Cursor) (events : List Event) :
    consumedIf ⟨.success value stop,events⟩ advanced = ⟨.success value stop,events⟩ := rfl

@[simp] theorem consumedIf_failure (advanced : Bool) (failed : Failure) (events : List Event) :
    consumedIf (⟨.failure failed,events⟩ : Reply α) advanced = ⟨.failure (failed.consumedIf advanced),events⟩ := rfl

@[simp] theorem success_outcome (value : α) (stop : Cursor) : (success value stop).outcome = .success value stop := rfl
@[simp] theorem success_events (value : α) (stop : Cursor) : (success value stop).events = [] := rfl
@[simp] theorem failure_outcome (failed : Failure) : (failure failed : Reply α).outcome = .failure failed := rfl
@[simp] theorem failure_events (failed : Failure) : (failure failed : Reply α).events = [] := rfl

end Reply

namespace Parser

variable {α β : Type}

protected def pure (value : α) : Parser α := ⟨fun cursor => .success value cursor⟩

def fail (message : String) : Parser α := ⟨fun cursor => .failure (.clean (.rejected message) cursor.location)⟩

def map (f : α → β) (parser : Parser α) : Parser β := ⟨fun cursor => (parser.run cursor).map f⟩

-- A map that also reports; the events come after those of the parser.
def mapReporting (f : α → β × List Event) (parser : Parser α) : Parser β := ⟨fun cursor =>
  (parser.run cursor).andThen fun value stop => ⟨.success (f value).1 stop,(f value).2⟩⟩

-- A rejected value is a failure at the place where the value started.
def tryMap (convert : α → Except String β) (parser : Parser α) : Parser β := ⟨fun cursor =>
  (parser.run cursor).andThen fun value stop =>
    match convert value with
    | .ok converted => .success converted stop
    | .error message => .failure ((Failure.clean (.rejected message) cursor.location).consumedIf
        (cursor.position < stop.position))⟩

-- Chooses the next parser from the value. Its failure counts as consumed when the first part advanced.
protected def bind (parser : Parser α) (next : α → Parser β) : Parser β := ⟨fun cursor =>
  (parser.run cursor).andThen fun value middle =>
    ((next value).run middle).consumedIf (cursor.position < middle.position)⟩

end Parser

end CommittedParsing
