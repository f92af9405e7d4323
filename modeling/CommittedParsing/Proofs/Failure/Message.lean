import CommittedParsing.Failure
import CommittedParsing.Proofs.Text.Decimal

namespace CommittedParsing

-- None of the texts that the cause carries holds a line feed.
def Cause.Unbroken : Cause → Prop
  | .unexpected expected found => '\n' ∉ expected.toList ∧ '\n' ∉ found.toList
  | .endOfInput expected => '\n' ∉ expected.toList
  | .rejected message => '\n' ∉ message.toList
  | .trailing found => found ≠ '\n'
  | .noProgress => True

instance (cause : Cause) : Decidable cause.Unbroken :=
  match cause with
  | .unexpected expected found => inferInstanceAs (Decidable ('\n' ∉ expected.toList ∧ '\n' ∉ found.toList))
  | .endOfInput expected => inferInstanceAs (Decidable ('\n' ∉ expected.toList))
  | .rejected message => inferInstanceAs (Decidable ('\n' ∉ message.toList))
  | .trailing found => inferInstanceAs (Decidable (found ≠ '\n'))
  | .noProgress => .isTrue trivial

theorem repr_unbroken (n : Nat) : '\n' ∉ n.repr.toList := by
  intro member
  have digit := Decimal.spell_digits n '\n' (by simpa [Decimal.spell,Nat.repr] using member)
  cases digit

theorem describe_unbroken (place : Location) : '\n' ∉ place.describe.toList := by
  simp only [Location.describe,String.toList_append,List.mem_append,not_or]
  exact ⟨⟨⟨by decide,repr_unbroken _⟩,by decide⟩,repr_unbroken _⟩

theorem message_unbroken (fault : Fault) : '\n' ∉ fault.message.toList ↔ fault.cause.Unbroken := by
  have place := describe_unbroken fault.location
  obtain ⟨cause,location⟩ := fault
  cases cause with
  | trailing found => simpa [Fault.message,Cause.Unbroken,place] using ne_comm
  | _ => simp [Fault.message,Cause.Unbroken,place]

namespace Failure

structure OneLine (failed : Failure) : Prop where
  unbroken : '\n' ∉ failed.message.toList
  first : (Text.lines failed.report.toList).head? = some failed.message.toList

theorem oneLine_exact (failed : Failure) : failed.OneLine ↔ failed.fault.cause.Unbroken := by
  constructor
  · exact fun line => (message_unbroken failed.fault).mp line.unbroken
  · intro unbroken
    have plain : '\n' ∉ failed.message.toList := (message_unbroken failed.fault).mpr unbroken
    refine ⟨plain,?_⟩
    simp [report,Text.lines_front _ plain]

end Failure

end CommittedParsing
