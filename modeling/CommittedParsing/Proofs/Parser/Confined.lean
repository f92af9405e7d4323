import CommittedParsing.Proofs.Parser.Repeat

namespace CommittedParsing.Parser

variable {α β γ : Type} {allowed : Cause → Prop}

def Confined (allowed : Cause → Prop) (parser : Parser α) : Prop :=
  ∀ ⦃cursor failed⦄, Fails parser cursor failed → allowed failed.fault.cause

theorem allowed_consumedIf {failed : Failure} {advanced : Bool} (caused : allowed failed.fault.cause) :
    allowed (failed.consumedIf advanced).fault.cause := caused

theorem satisfy_confined {test : Char → Bool} {expected : String} (missing : allowed (.endOfInput expected))
    (other : ∀ c, test c = false → allowed (.unexpected expected (Text.quotedChar c))) :
    Confined allowed (satisfy test expected) := by
  intro cursor failed ran
  rcases satisfy_fails.mp ran with ⟨_,rfl⟩ | ⟨c,_,refused,rfl⟩
  · exact missing
  · exact other c refused

theorem pure_confined (value : α) : Confined allowed (Parser.pure value) := fun _ _ ran => absurd ran pure_fails

section Combined

variable {parser first other : Parser α} {second : Parser β}

theorem map_confined (f : α → β) (confined : Confined allowed parser) : Confined allowed (parser.map f) :=
  fun _ _ ran => confined (map_fails.mp ran)

theorem mapReporting_confined (f : α → β × List Event) (confined : Confined allowed parser) :
    Confined allowed (parser.mapReporting f) := fun _ _ ran => confined (mapReporting_fails.mp ran)

theorem recognize_confined (confined : Confined allowed parser) : Confined allowed parser.recognize :=
  fun _ _ ran => confined (recognize_fails.mp ran)

-- A check brings in the messages with which it rejects what the parser has read.
theorem tryMap_confined {convert : α → Except String β} (confined : Confined allowed parser)
    (checked : ∀ {cursor value stop message}, Succeeds parser cursor value stop → convert value = .error message →
      allowed (.rejected message)) : Confined allowed (parser.tryMap convert) := by
  intro cursor failed ran
  rcases tryMap_fails.mp ran with inner | ⟨value,stop,message,read,refused,rfl⟩
  · exact confined inner
  · exact checked read refused

theorem pair_confined (before : Confined allowed first) (after : Confined allowed second) :
    Confined allowed (first.pair second) := by
  intro cursor failed ran
  rcases pair_fails.mp ran with one | ⟨_,_,_,_,two,rfl⟩
  · exact before one
  · exact allowed_consumedIf (after two)

theorem left_confined (before : Confined allowed first) (after : Confined allowed second) :
    Confined allowed (first.left second) := map_confined _ (pair_confined before after)

theorem right_confined (before : Confined allowed first) (after : Confined allowed second) :
    Confined allowed (first.right second) := map_confined _ (pair_confined before after)

theorem between_confined {opening : Parser α} {content : Parser β} {closing : Parser γ}
    (opened : Confined allowed opening) (filled : Confined allowed content) (closed : Confined allowed closing) :
    Confined allowed (between opening content closing) := by
  intro cursor failed ran
  rcases between_fails.mp ran with one | ⟨_,_,_,_,two,rfl⟩ | ⟨_,_,_,_,_,_,_,three,rfl⟩
  · exact opened one
  · exact allowed_consumedIf (filled two)
  · exact allowed_consumedIf (closed three)

theorem orElse_confined (confined : Confined allowed parser) (instead : Confined allowed other) :
    Confined allowed (parser.orElse other) := by
  intro cursor failed ran
  rcases orElse_fails.mp ran with ⟨one,_⟩ | ⟨_,two⟩
  · exact confined one
  · exact instead two

end Combined

section Loops

variable {parser item : Parser α} {separator : Parser β}

theorem repeatBroken_confined (confined : Confined allowed parser) (stuck : allowed .noProgress)
    {start cursor : Cursor} {failed : Failure} (broken : RepeatBroken parser start cursor failed) :
    allowed failed.fault.cause := by
  rcases broken with ⟨ran,_⟩ | ⟨_,rfl⟩
  · exact confined ran
  · exact stuck

theorem many_confined (confined : Confined allowed parser) (stuck : allowed .noProgress) :
    Confined allowed parser.many := by
  intro cursor failed ran
  obtain ⟨_,_,_,broken⟩ := many_fails.mp ran
  exact repeatBroken_confined confined stuck broken

theorem many1_confined (confined : Confined allowed parser) (stuck : allowed .noProgress) :
    Confined allowed parser.many1 := by
  intro cursor failed ran
  rcases many1_fails.mp ran with first | ⟨_,_,_,_,_,_,broken⟩
  · exact confined first
  · exact repeatBroken_confined confined stuck broken

theorem separatedBy_confined (within : Confined allowed item) (between : Confined allowed separator)
    (stuck : allowed .noProgress) : Confined allowed (item.separatedBy separator) := by
  intro cursor failed ran
  rcases separatedBy_fails.mp ran with first | ⟨_,_,_,_,_,_,⟨mark,_⟩ | ⟨_,_,_,_,missing,rfl⟩ | ⟨_,rfl⟩⟩
  · exact within first
  · exact between mark
  · exact allowed_consumedIf (within missing)
  · exact stuck

end Loops

theorem chain_kind {test : Char → Bool} {expected : String} {cursor stop : Cursor} {values : List Char}
    (chain : Chain (Succeeds (satisfy test expected)) cursor values stop) : ∀ c ∈ values, test c = true := by
  induction chain with
  | nil => exact fun _ member => absurd member List.not_mem_nil
  | cons step _ _ ih => exact List.forall_mem_cons.mpr ⟨(satisfy_succeeds.mp step).2,ih⟩

theorem many1_kind {test : Char → Bool} {expected : String} {cursor stop : Cursor} {values : List Char}
    (ran : Succeeds (satisfy test expected).many1 cursor values stop) : ∀ c ∈ values, test c = true := by
  obtain ⟨_,_,_,first,chain,_,rfl⟩ := many1_succeeds.mp ran
  exact List.forall_mem_cons.mpr ⟨(satisfy_succeeds.mp first).2,chain_kind chain⟩

end CommittedParsing.Parser
