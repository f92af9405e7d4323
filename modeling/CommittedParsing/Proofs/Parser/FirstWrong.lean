import CommittedParsing.Proofs.Parser.Complete
import CommittedParsing.Proofs.Parser.Determined

namespace CommittedParsing.Parser

open Cursor

variable {α : Type}

def Extendable (parser : Parser α) (front : List Char) : Prop :=
  ∃ more value, (parser.parseComplete (String.ofList (front ++ more))).result = .ok value

-- The failure is located behind the longest front of the text with which an accepted text begins, and it
-- reports the end of the input exactly when that front is the whole text.
def AtFirstWrong (parser : Parser α) (text : String) (failed : Failure) : Prop :=
  ∃ front rest, text.toList = front ++ rest ∧ failed.position = Text.byteLength front ∧ Extendable parser front ∧
    (∀ longer back, text.toList = longer ++ back → Extendable parser longer → longer.length ≤ front.length) ∧
    ((∃ expected, failed.fault.cause = .endOfInput expected) ↔ rest = [])

section Composed

variable {allowed : Allowance} {parser : Parser α} {text other : String} {failed : Failure} {front rest : List Char}

theorem parseComplete_determined (plain : allowed.attempt = false ∧ allowed.optional = false ∧ allowed.span = false)
    (composed : Composed allowed parser) (ran : (parser.parseComplete text).result = .error failed)
    (unrejected : ∀ message, failed.fault.cause ≠ .rejected message) {back : List Char} (whole : text.toList = front ++ rest)
    (placed : failed.position = Text.byteLength front) (same : other.toList = front ++ back)
    (next : rest.head? = back.head?) : ∃ later, (parser.parseComplete other).result = .error later := by
  have determined := composed_determined plain (composed_left composed .eof)
  have missed := parseComplete_error.mp ran
  obtain ⟨place,⟨read,passed⟩,located⟩ := (composed_onward (composed_left composed .eof)).failure missed
  obtain ⟨stop,reads,ahead⟩ := reads_front (show (start text).rest = front ++ rest from whole)
  have offset : stop.position = place.position := by
    have here := congrArg Location.offset located
    rw [reads.2.2,start_position,Nat.zero_add,← placed]
    exact here
  obtain ⟨_,rfl⟩ := reads_unique reads passed offset
  obtain ⟨last,further,behind⟩ := reads_front (show (start other).rest = front ++ back from same)
  have seen : stop.peek? = last.peek? := by rw [peek?,peek?,ahead,behind,next]
  have twins : Twins (start text) (start other) stop last := ⟨.start,.start,rfl,⟨front,reads,further⟩,seen⟩
  exact ⟨_,parseComplete_error.mpr (determined.failure twins missed located fun _ => unrejected)⟩

-- No front that goes on past the place of a failure can be continued to an accepted text.
theorem failure_final (plain : allowed.attempt = false ∧ allowed.optional = false ∧ allowed.span = false)
    (composed : Composed allowed parser) (ran : (parser.parseComplete text).result = .error failed)
    (unrejected : ∀ message, failed.fault.cause ≠ .rejected message) (whole : text.toList = front ++ rest)
    (placed : failed.position = Text.byteLength front) {longer back : List Char} (split : text.toList = longer ++ back)
    (extendable : Extendable parser longer) : longer.length ≤ front.length := by
  refine Nat.le_of_not_lt fun exceeds => ?_
  obtain ⟨extra,rfl⟩ : front <+: longer := by
    refine List.prefix_of_prefix_length_le ⟨rest,whole.symm⟩ ⟨back,split.symm⟩ ?_
    omega
  obtain ⟨more,value,accepted⟩ := extendable
  have nonempty : extra ≠ [] := by
    rintro rfl
    simp at exceeds
  have next : rest.head? = (extra ++ more).head? := by
    obtain ⟨c,others,rfl⟩ := List.exists_cons_of_ne_nil nonempty
    rw [whole,List.append_assoc] at split
    rw [List.append_cancel_left split]
    rfl
  have same : (String.ofList (front ++ extra ++ more)).toList = front ++ (extra ++ more) := by
    rw [String.toList_ofList,List.append_assoc]
  obtain ⟨later,refused⟩ := parseComplete_determined plain composed ran unrejected whole placed same next
  rw [accepted] at refused
  cases refused

theorem first_wrong (plain : allowed.attempt = false ∧ allowed.optional = false ∧ allowed.span = false)
    (composed : Composed allowed parser) (ran : (parser.parseComplete text).result = .error failed)
    (whole : text.toList = front ++ rest) (placed : failed.position = Text.byteLength front)
    (tells : Tells failed.fault.cause rest) (extendable : Extendable parser front) : AtFirstWrong parser text failed := by
  refine ⟨front,rest,whole,placed,extendable,?_,tells_end tells⟩
  intro longer back split continued
  exact failure_final plain composed ran (tells_unrejected tells) whole placed split continued

end Composed

end CommittedParsing.Parser
