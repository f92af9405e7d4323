import CommittedParsing.Proofs.Parser.Outcome

namespace CommittedParsing.Parser

variable {α β γ : Type} {parser first second : Parser α} {cursor stop : Cursor} {value : α} {failed : Failure}

def Exclusive (first : Parser α) (second : Parser β) (cursor : Cursor) : Prop :=
  ∀ value stop other last, Succeeds first cursor value stop → ¬ Succeeds second cursor other last

theorem attempt_declines : Declines parser.attempt cursor ↔ ∃ failed, Fails parser cursor failed := by
  constructor
  · intro declined
    obtain ⟨_,ran,_⟩ := declined
    obtain ⟨inner,missed,_⟩ := attempt_fails.mp ran
    exact ⟨inner,missed⟩
  · intro found
    obtain ⟨failed,missed⟩ := found
    exact ⟨failed.rewind,attempt_fails.mpr ⟨failed,missed,rfl⟩,rfl⟩

theorem attempt_orElse_succeeds : Succeeds (first.attempt.orElse second) cursor value stop ↔
    Succeeds first cursor value stop ∨ (∃ missed, Fails first cursor missed) ∧ Succeeds second cursor value stop := by
  rw [orElse_succeeds,attempt_succeeds,attempt_declines]

-- The failure of the first branch is dropped, however far it had come.
theorem attempt_orElse_fails : Fails (first.attempt.orElse second) cursor failed ↔
    (∃ missed, Fails first cursor missed) ∧ Fails second cursor failed := by
  rw [orElse_fails,attempt_declines]
  refine or_iff_right ?_
  intro committed
  obtain ⟨ran,consumed⟩ := committed
  obtain ⟨_,_,rfl⟩ := attempt_fails.mp ran
  cases consumed

theorem exclusive_fails {other : Parser β} {result : β} {last : Cursor} (exclusive : Exclusive first other cursor)
    (ran : Succeeds other cursor result last) : ∃ missed, Fails first cursor missed := by
  rcases answers first cursor with ⟨value,stop,also⟩ | missed
  · exact absurd ran (exclusive value stop result last also)
  · exact missed

theorem exclusive_map {other : Parser β} (f : α → γ) (g : β → γ) (exclusive : Exclusive first other cursor) :
    Exclusive (first.map f) (other.map g) cursor := by
  intro _ _ _ _ ran also
  obtain ⟨_,one,_⟩ := map_succeeds.mp ran
  obtain ⟨_,two,_⟩ := map_succeeds.mp also
  exact exclusive _ _ _ _ one two

theorem exclusive_orElse (exclusive : Exclusive first second cursor) :
    Succeeds (first.attempt.orElse second) cursor value stop ↔
      Succeeds first cursor value stop ∨ Succeeds second cursor value stop := by
  rw [attempt_orElse_succeeds]
  refine or_congr_right ?_
  exact and_iff_right_of_imp fun ran => exclusive_fails exclusive ran

theorem exclusive_swaps (exclusive : Exclusive first second cursor) :
    Succeeds (second.attempt.orElse first.attempt) cursor value stop ↔
      Succeeds (first.attempt.orElse second) cursor value stop := by
  have attempted : Exclusive second first.attempt cursor := fun _ _ _ _ ran also =>
    exclusive _ _ _ _ (attempt_succeeds.mp also) ran
  rw [exclusive_orElse exclusive,exclusive_orElse attempted,attempt_succeeds]
  exact or_comm

end CommittedParsing.Parser
