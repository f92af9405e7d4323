import CommittedParsing.Parser.Repeat
import CommittedParsing.Parser.Sequence

namespace CommittedParsing

theorem Reply.map_events {α β : Type} (f : α → β) (reply : Reply α) : (reply.map f).events = reply.events := by
  obtain ⟨outcome,events⟩ := reply
  cases outcome <;> rfl

namespace Parser

variable {α β : Type} {parser item : Parser α} {separator : Parser β} {start cursor after next : Cursor} {mark : β}
  {value : α} {failed : Failure} {events more : List Event}

section Repetition

theorem repeatFrom_ends (ran : parser.run cursor = ⟨.failure failed,events⟩) :
    repeatFrom parser start cursor = ⟨if failed.consumed then .failure failed else .success [] cursor,events⟩ := by
  rw [repeatFrom]
  simp only [ran]
  split <;> rfl

theorem repeatFrom_sticks (ran : parser.run cursor = ⟨.success value next,events⟩)
    (same : ¬ next.remaining < cursor.remaining) :
    repeatFrom parser start cursor = ⟨.failure (stuck start cursor),events⟩ := by
  rw [repeatFrom]
  simp only [ran,same,if_false]

theorem repeatFrom_goes (ran : parser.run cursor = ⟨.success value next,events⟩)
    (less : next.remaining < cursor.remaining) :
    repeatFrom parser start cursor = ⟨((repeatFrom parser start next).map (value :: ·)).outcome,
      events ++ (repeatFrom parser start next).events⟩ := by
  rw [repeatFrom]
  simp only [ran,less,if_true]

end Repetition

section Separated

theorem separatedFrom_ends (ran : separator.run cursor = ⟨.failure failed,events⟩) :
    separatedFrom item separator start cursor =
      ⟨if failed.consumed then .failure failed else .success [] cursor,events⟩ := by
  rw [separatedFrom]
  simp only [ran]
  split <;> rfl

theorem separatedFrom_misses (ran : separator.run cursor = ⟨.success mark after,events⟩)
    (missing : item.run after = ⟨.failure failed,more⟩) :
    separatedFrom item separator start cursor =
      ⟨.failure (failed.consumedIf (start.position < after.position)),events ++ more⟩ := by
  rw [separatedFrom]
  simp only [ran,missing,Reply.consumedIf_failure]

theorem separatedFrom_goes (ran : separator.run cursor = ⟨.success mark after,events⟩)
    (taken : item.run after = ⟨.success value next,more⟩) (less : next.remaining < cursor.remaining) :
    separatedFrom item separator start cursor =
      ⟨((separatedFrom item separator start next).map (value :: ·)).outcome,
        events ++ more ++ (separatedFrom item separator start next).events⟩ := by
  rw [separatedFrom]
  simp only [ran,taken,Reply.consumedIf_success,less,if_true]

theorem round_ends (ran : separator.run cursor = ⟨.failure failed,events⟩) :
    (separator.right item).run cursor = ⟨.failure failed,events⟩ := by
  simp only [right,map,pair,ran,Reply.andThen_failure,Reply.map_failure]

theorem round_misses (ran : separator.run cursor = ⟨.success mark after,events⟩)
    (missing : item.run after = ⟨.failure failed,more⟩) : (separator.right item).run cursor =
      ⟨.failure (failed.consumedIf (cursor.position < after.position)),events ++ more⟩ := by
  simp only [right,map,pair,ran,missing,Reply.andThen_success,Reply.consumedIf_failure,Reply.map_failure]

theorem round_goes (ran : separator.run cursor = ⟨.success mark after,events⟩)
    (taken : item.run after = ⟨.success value next,more⟩) :
    (separator.right item).run cursor = ⟨.success value next,events ++ more⟩ := by
  simp only [right,map,pair,ran,taken,Reply.andThen_success,Reply.consumedIf_success,Reply.map_success]

end Separated

end Parser

end CommittedParsing
