import CommittedParsing.Proofs.Parser.Repeat

namespace CommittedParsing.Parser

variable {α β γ : Type}

def Agrees (one two : Parser α) : Prop := ∀ cursor, (one.run cursor).outcome = (two.run cursor).outcome

theorem pair_agrees (first : Parser α) (second : Parser β) :
    Agrees (first.pair second) (first.bind fun value => second.map fun later => (value,later)) := by
  intro cursor
  simp only [pair,Parser.bind,map]
  rcases first.run cursor with ⟨⟨value,middle⟩ | failed,events⟩
  · simp only [Reply.andThen_success]
    rcases second.run middle with ⟨later | failed,others⟩ <;> rfl
  · rfl

-- Both commitments are measured from the start of the opening, by the bracketing itself or by the two sequences, and
-- the reports are the same as well.
theorem between_sequence (opening : Parser α) (content : Parser β) (closing : Parser γ) (start : Cursor) :
    (between opening content closing).run start = ((opening.right content).left closing).run start := by
  simp only [between,left,right,map,pair]
  rcases opening.run start with ⟨⟨mark,opened⟩ | failed,events⟩
  · simp only [Reply.andThen_success]
    rcases content.run opened with ⟨⟨value,filled⟩ | failed,more⟩
    · simp only [Reply.consumedIf_success,Reply.andThen_success,Reply.map_success]
      rcases closing.run filled with ⟨⟨last,stop⟩ | failed,rest⟩ <;> simp
    · rfl
  · rfl

theorem between_agrees (opening : Parser α) (content : Parser β) (closing : Parser γ) :
    Agrees (between opening content closing) (((opening.pair content).pair closing).map fun parts => parts.1.2) := by
  intro start
  simp only [between,pair,map]
  rcases opening.run start with ⟨⟨mark,opened⟩ | failed,events⟩
  · simp only [Reply.andThen_success]
    rcases content.run opened with ⟨⟨value,filled⟩ | failed,others⟩
    · simp only [Reply.consumedIf_success,Reply.andThen_success,Reply.map_success]
      rcases closing.run filled with ⟨last | failed,more⟩ <;> rfl
    · rfl
  · rfl

theorem mapReporting_agrees (f : α → β × List Event) (parser : Parser α) :
    Agrees (parser.mapReporting f) (parser.map fun value => (f value).1) := by
  intro cursor
  simp only [mapReporting,map]
  rcases parser.run cursor with ⟨success | failed,events⟩ <;> rfl

end CommittedParsing.Parser
