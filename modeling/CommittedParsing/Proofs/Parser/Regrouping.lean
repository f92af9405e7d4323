import CommittedParsing.Proofs.Parser.Forward

namespace CommittedParsing

namespace Reply

variable {α β γ : Type}

theorem andThen_success_self (reply : Reply α) : reply.andThen success = reply := by
  obtain ⟨outcome,events⟩ := reply
  cases outcome with
  | failure failed => rfl
  | success value stop => simp only [andThen_success,success_outcome,success_events,List.append_nil]

theorem andThen_assoc (reply : Reply α) (first : α → Cursor → Reply β) (second : β → Cursor → Reply γ) :
    (reply.andThen first).andThen second = reply.andThen fun value stop => (first value stop).andThen second := by
  obtain ⟨outcome,events⟩ := reply
  cases outcome with
  | failure failed => rfl
  | success value stop =>
      simp only [andThen_success]
      rcases first value stop with ⟨⟨other,place⟩ | failed,later⟩
      · simp only [andThen_success,List.append_assoc]
      · rfl

theorem andThen_congr {reply : Reply α} {first second : α → Cursor → Reply β}
    (same : ∀ {value stop}, reply.outcome = .success value stop → first value stop = second value stop) :
    reply.andThen first = reply.andThen second := by
  obtain ⟨outcome,events⟩ := reply
  cases outcome with
  | failure failed => rfl
  | success value stop => rw [andThen_success,andThen_success,same rfl]

theorem recover_assoc (reply : Reply α) (first second : Failure → Reply α) :
    (reply.recover first).recover second = reply.recover fun failed => (first failed).recover second := by
  obtain ⟨outcome,events⟩ := reply
  cases outcome with
  | success value stop => rfl
  | failure failed =>
      simp only [recover_failure]
      rcases first failed with ⟨⟨other,place⟩ | later,more⟩
      · rfl
      · simp only [recover_failure,List.append_assoc]

@[simp] theorem consumedIf_false (reply : Reply α) : reply.consumedIf false = reply := by
  obtain ⟨outcome,events⟩ := reply
  cases outcome with
  | success value stop => rfl
  | failure failed => rw [consumedIf_failure,Failure.consumedIf_false]

theorem consumedIf_consumedIf (reply : Reply α) (first second : Bool) :
    (reply.consumedIf first).consumedIf second = reply.consumedIf (first || second) := by
  obtain ⟨outcome,events⟩ := reply
  cases outcome with
  | success value stop => rfl
  | failure failed => simp only [consumedIf_failure,Failure.consumedIf_consumedIf]

theorem consumedIf_andThen (reply : Reply α) (next : α → Cursor → Reply β) (advanced : Bool) :
    (reply.andThen next).consumedIf advanced =
      (reply.consumedIf advanced).andThen fun value stop => (next value stop).consumedIf advanced := by
  obtain ⟨outcome,events⟩ := reply
  cases outcome with
  | failure failed => rfl
  | success value stop =>
      simp only [andThen_success,consumedIf_success]
      rcases next value stop with ⟨⟨other,place⟩ | failed,later⟩ <;> rfl

theorem consumedIf_map (f : α → β) (reply : Reply α) (advanced : Bool) :
    (reply.map f).consumedIf advanced = (reply.consumedIf advanced).map f := by
  obtain ⟨outcome,events⟩ := reply
  cases outcome with
  | failure failed => rfl
  | success value stop => rfl

end Reply

namespace Parser

open Cursor

variable {α β γ δ : Type}

theorem advanced_through {start middle stop : Cursor} (near : start.position ≤ middle.position)
    (far : middle.position ≤ stop.position) :
    (decide (middle.position < stop.position) || decide (start.position < middle.position)) =
      decide (start.position < stop.position) := by
  rw [Bool.eq_iff_iff,Bool.or_eq_true_iff,decide_eq_true_iff,decide_eq_true_iff,decide_eq_true_iff]
  omega

section Laws

variable {parser second third : Parser α} {next : α → Parser β} {last : β → Parser γ}

theorem bind_after_pure (value : α) : Interchangeable ((Parser.pure value).bind next) (next value) := by
  intro source cursor reached
  have stays : decide (cursor.position < cursor.position) = false := decide_eq_false (Nat.lt_irrefl _)
  simp only [Parser.bind,Parser.pure,Reply.success,Reply.andThen_success,stays,Reply.consumedIf_false,List.nil_append]

theorem bind_to_pure : Interchangeable (parser.bind Parser.pure) parser := by
  intro source cursor reached
  exact Reply.andThen_success_self (parser.run cursor)

-- The commitment of the last part is measured from the start at once, or first from the middle and then from the start.
theorem bind_regroups (forward : Forward parser) (later : ∀ value, Forward (next value)) :
    Interchangeable ((parser.bind next).bind last) (parser.bind fun value => (next value).bind last) := by
  intro source cursor reached
  simp only [Parser.bind]
  rw [Reply.andThen_assoc]
  apply Reply.andThen_congr
  intro value middle ran
  obtain ⟨inside,near⟩ := forward reached ran
  rw [Reply.consumedIf_andThen]
  apply Reply.andThen_congr
  intro result stop ended
  obtain ⟨_,far⟩ := later value inside (Reply.consumedIf_success_exact.mp ended)
  rw [Reply.consumedIf_consumedIf,advanced_through near far]

theorem orElse_regroups : Interchangeable ((parser.orElse second).orElse third) (parser.orElse (second.orElse third)) := by
  intro source cursor reached
  simp only [orElse]
  rw [Reply.recover_assoc]
  congr 1
  funext failed
  cases committed : failed.consumed with
  | true => simp [committed,Reply.failure]
  | false => simp only [Bool.false_eq_true,if_false]

theorem pair_is_bind (first : Parser α) (second : Parser β) :
    Interchangeable (first.pair second) (first.bind fun value => second.map fun later => (value,later)) := by
  intro source cursor reached
  simp only [pair,Parser.bind,map,Reply.consumedIf_map]

theorem map_interchangeable {one two : Parser α} (f : α → β) (same : Interchangeable one two) :
    Interchangeable (one.map f) (two.map f) := by
  intro source cursor reached
  simp only [map,same reached]

end Laws

-- Sequences and choices can be regrouped as values can, with the same failures, places and commitments.
theorem sequences_choices_regroup (parser second third : Parser α) (next : α → Parser β) (last : β → Parser γ)
    (other : Parser δ) (forward : Forward parser) (later : ∀ value, Forward (next value)) :
    (∀ value, Interchangeable ((Parser.pure value).bind next) (next value)) ∧
    Interchangeable (parser.bind Parser.pure) parser ∧
    Interchangeable ((parser.bind next).bind last) (parser.bind fun value => (next value).bind last) ∧
    Interchangeable ((parser.orElse second).orElse third) (parser.orElse (second.orElse third)) ∧
    Interchangeable (parser.pair other) (parser.bind fun value => other.map fun result => (value,result)) ∧
    Interchangeable (parser.left other)
      ((parser.bind fun value => other.map fun result => (value,result)).map Prod.fst) ∧
    Interchangeable (parser.right other)
      ((parser.bind fun value => other.map fun result => (value,result)).map Prod.snd) := by
  have sequence : Interchangeable (parser.pair other) (parser.bind fun value => other.map fun result => (value,result)) :=
    pair_is_bind parser other
  refine ⟨bind_after_pure,bind_to_pure,bind_regroups forward later,orElse_regroups,sequence,?_,?_⟩
  · exact map_interchangeable Prod.fst sequence
  · exact map_interchangeable Prod.snd sequence

-- The failure is at the end of an empty part, so that only one of the two groupings sees at once that it is committed.
theorem empty_middle_regroups :
    Forward (char 'é') ∧ (∀ c, Forward (char c).optional) ∧
    Fails (((char 'é').bind fun c => (char c).optional).bind fun _ => char 'x') (Cursor.start "éy")
      ⟨⟨.unexpected "'x'" "'y'",⟨"éy",2⟩⟩,true⟩ ∧
    Fails ((char 'é').bind fun c => (char c).optional.bind fun _ => char 'x') (Cursor.start "éy")
      ⟨⟨.unexpected "'x'" "'y'",⟨"éy",2⟩⟩,true⟩ := by
  have first : Composed .everything (char 'é') := .satisfy _ _
  have middle (c : Char) : Composed .everything (char c).optional := .optional rfl (.satisfy _ _)
  have forward : Forward (char 'é') := composed_forward first
  have later (c : Char) : Forward (char c).optional := composed_forward (middle c)
  have failed : Fails (((char 'é').bind fun c => (char c).optional).bind fun _ => char 'x') (Cursor.start "éy")
      ⟨⟨.unexpected "'x'" "'y'",⟨"éy",2⟩⟩,true⟩ := by decide +kernel
  have laws := sequences_choices_regroup (char 'é') (char 'é') (char 'é') (fun c => (char c).optional)
    (fun _ => char 'x') eof forward later
  refine ⟨forward,later,failed,?_⟩
  unfold Fails at failed ⊢
  rw [← laws.2.2.1 .start]
  exact failed

end Parser

end CommittedParsing
