import CommittedParsing.Proofs.Parser.Derived
import CommittedParsing.Proofs.Parser.Forward
import CommittedParsing.Proofs.Parser.Rounds

namespace CommittedParsing.Parser

open Cursor

variable {α : Type} {parser : Parser α} {source : String} {start cursor stop : Cursor} {values : List α}

inductive Repeats (parser : Parser α) : Cursor → List α → Cursor → Prop where
  | nil {cursor : Cursor} : Repeats parser cursor [] cursor
  | cons {cursor next stop : Cursor} {value : α} {values : List α} : Succeeds parser cursor value next →
      cursor.position < next.position → Repeats parser next values stop → Repeats parser cursor (value :: values) stop

-- The same parser, which reports each call as a text that is about to be read, and reports nothing else.
def announced (parser : Parser α) : Parser α := ⟨fun cursor =>
  ⟨(parser.run cursor).outcome,[.started cursor.remaining]⟩⟩

def callsOfMany (parser : Parser α) (cursor : Cursor) : Nat := (parser.announced.many.run cursor).events.length

section Steps

variable (forward : Forward parser)

include forward

theorem repeats_chain (reached : Reached source cursor) :
    Repeats parser cursor values stop ↔ Chain (Succeeds parser) cursor values stop := by
  constructor
  · intro repeated
    induction repeated with
    | nil => exact .nil
    | cons ran further _ ih =>
        have ahead := forward_ahead forward reached ran
        exact .cons ran (further_less reached ahead further) (ih (forward reached ran).1)
  · intro chain
    induction chain with
    | nil => exact .nil
    | cons ran less _ ih =>
        have ahead := forward_ahead forward reached ran
        exact .cons ran (less_further ahead less) (ih (forward reached ran).1)

theorem forward_same {value : α} (reached : Reached source cursor) (ran : Succeeds parser cursor value stop) :
    ¬ stop.remaining < cursor.remaining ↔ stop.position = cursor.position := by
  have ahead := forward_ahead forward reached ran
  constructor
  · intro same
    rw [ahead_stays reached ahead same]
  · intro same less
    exact absurd same (Nat.ne_of_gt (less_further ahead less))

theorem repeatBroken_exact {failed : Failure} (reached : Reached source cursor) :
    RepeatBroken parser start cursor failed ↔ Fails parser cursor failed ∧ failed.consumed = true ∨
      (∃ value next, Succeeds parser cursor value next ∧ next.position = cursor.position) ∧
        failed = ⟨⟨.noProgress,cursor.location⟩,decide (start.position < cursor.position)⟩ := by
  unfold RepeatBroken
  refine or_congr_right (and_congr ?_ eq_comm)
  refine exists_congr fun value => exists_congr fun next => and_congr_right fun ran => ?_
  exact forward_same forward reached ran

theorem chain_length (reached : Reached source cursor) (chain : Chain (Succeeds parser) cursor values stop) :
    values.length + stop.rest.length ≤ cursor.rest.length := by
  induction chain with
  | nil => simp
  | @cons cursor next stop value values ran less _ ih =>
      have rest := ih (forward reached ran).1
      obtain ⟨read,passed⟩ := forward_ahead forward reached ran
      have some : 0 < read.length := List.length_pos_iff.mpr ((reads_remaining reached passed).mp less)
      have width : cursor.rest.length = read.length + next.rest.length := by rw [passed.2.1,List.length_append]
      rw [List.length_cons]
      omega

end Steps

section Calls

variable {last : Cursor}

theorem announced_run {outcome : Outcome α} (ran : (parser.run cursor).outcome = outcome) :
    parser.announced.run cursor = ⟨outcome,[.started cursor.remaining]⟩ := by
  subst ran
  rfl

-- A repetition calls its parser once for each value, and once more where it ends.
theorem repeatFrom_calls (chain : Chain (Succeeds parser) cursor values last)
    (ended : ∀ value next, Succeeds parser last value next → ¬ next.remaining < last.remaining) :
    (repeatFrom parser.announced start cursor).events.length = values.length + 1 := by
  induction chain with
  | @nil cursor =>
      cases ran : (parser.run cursor).outcome with
      | failure failed =>
          rw [repeatFrom_ends (announced_run ran)]
          rfl
      | success value next =>
          rw [repeatFrom_sticks (announced_run ran) (ended value next ran)]
          rfl
  | cons ran less _ ih =>
      rw [repeatFrom_goes (announced_run ran) less,List.length_append,ih ended,List.length_singleton,List.length_cons]
      exact Nat.add_comm _ _

theorem many_ends (parser : Parser α) (cursor : Cursor) : ∃ values last, Chain (Succeeds parser) cursor values last ∧
    ∀ value next, Succeeds parser last value next → ¬ next.remaining < last.remaining := by
  rcases loop_sound (repeatFrom_loop parser cursor) cursor with ⟨values,last,chain,declined,_⟩ |
    ⟨values,last,failed,chain,broken,_⟩
  · obtain ⟨_,refused,_⟩ := declined
    exact ⟨values,last,chain,fun _ _ ran => absurd refused (succeeds_not_fails ran)⟩
  · refine ⟨values,last,chain,?_⟩
    intro value next ran
    rcases broken with ⟨refused,_⟩ | ⟨⟨_,_,stuck,same⟩,_⟩
    · exact absurd refused (succeeds_not_fails ran)
    · obtain ⟨_,rfl⟩ := succeeds_unique ran stuck
      exact same

theorem announced_many (parser : Parser α) : Agrees parser.announced.many parser.many := by
  intro cursor
  rcases answers parser.many cursor with ⟨values,stop,ran⟩ | ⟨failed,ran⟩
  · obtain ⟨chain,declined⟩ := many_succeeds.mp ran
    have same : Succeeds parser.announced.many cursor values stop := many_succeeds.mpr ⟨chain,declined⟩
    exact Eq.trans same (Eq.symm ran)
  · obtain ⟨values,last,chain,broken⟩ := many_fails.mp ran
    have same : Fails parser.announced.many cursor failed := many_fails.mpr ⟨values,last,chain,broken⟩
    exact Eq.trans same (Eq.symm ran)

theorem many_calls (forward : Forward parser) (reached : Reached source cursor) :
    callsOfMany parser cursor ≤ cursor.rest.length + 1 := by
  obtain ⟨values,last,chain,ended⟩ := many_ends parser cursor
  have calls : callsOfMany parser cursor = values.length + 1 := repeatFrom_calls chain ended
  have fits := chain_length forward reached chain
  omega

end Calls

-- Repetition ends, after no more calls than there are characters left and one; its values are those of a run of
-- successes that each get further, up to where the parser declines, and it fails exactly where such a run breaks off.
theorem many_maximal (parser : Parser α) (forward : Forward parser) (source : String) (cursor : Cursor)
    (reached : Reached source cursor) :
    (parser.announced.many.run cursor).outcome = (parser.many.run cursor).outcome ∧
    callsOfMany parser cursor ≤ cursor.rest.length + 1 ∧
    (∀ values stop, Succeeds parser.many cursor values stop ↔
      Repeats parser cursor values stop ∧ Declines parser stop) ∧
    (∀ failed, Fails parser.many cursor failed ↔ ∃ values last, Repeats parser cursor values last ∧
      (Fails parser last failed ∧ failed.consumed = true ∨
        (∃ value next, Succeeds parser last value next ∧ next.position = last.position) ∧
          failed = ⟨⟨.noProgress,last.location⟩,decide (cursor.position < last.position)⟩)) ∧
    ∀ values stop, Succeeds parser.many cursor values stop → Succeeds parser.many stop [] stop := by
  refine ⟨announced_many parser cursor,many_calls forward reached,?_,?_,?_⟩
  · intro values stop
    rw [many_succeeds,repeats_chain forward reached]
  · intro failed
    rw [many_fails]
    refine exists_congr fun values => exists_congr fun last => ?_
    rw [repeats_chain forward reached]
    refine and_congr_right fun chain => ?_
    exact repeatBroken_exact forward (chain_forward forward reached chain).1
  · intro values stop ran
    exact many_succeeds.mpr ⟨.nil,(many_succeeds.mp ran).2⟩

-- Two characters are taken, and at the third the optional one succeeds in place, which is a failure that has committed;
-- the character itself is not there, where its repetition stops.
theorem optional_repetition_maximal :
    Forward (char 'é').optional ∧ Reached "ééx" (Cursor.start "ééx") ∧
    callsOfMany (char 'é').optional (Cursor.start "ééx") ≤ 4 ∧
    Repeats (char 'é').optional (Cursor.start "ééx") [some 'é',some 'é'] ⟨"ééx",4,['x']⟩ ∧
    Fails (char 'é').optional.many (Cursor.start "ééx") ⟨⟨.noProgress,⟨"ééx",4⟩⟩,true⟩ ∧
    Succeeds (char 'é').many (Cursor.start "ééx") ['é','é'] ⟨"ééx",4,['x']⟩ ∧
    Succeeds (char 'é').many ⟨"ééx",4,['x']⟩ [] ⟨"ééx",4,['x']⟩ := by
  have taken : Composed .everything (char 'é') := .satisfy _ _
  have maybe : Composed .everything (char 'é').optional := .optional rfl taken
  have forward : Forward (char 'é').optional := composed_forward maybe
  have single : Forward (char 'é') := composed_forward taken
  have optionally : Succeeds (char 'é').optional (Cursor.start "ééx") (some 'é') ⟨"ééx",2,['é','x']⟩ := by
    decide +kernel
  have steps : Repeats (char 'é').optional (Cursor.start "ééx") [some 'é',some 'é'] ⟨"ééx",4,['x']⟩ :=
    .cons optionally (by decide) (.cons (by decide +kernel) (by decide) .nil)
  have once : Succeeds (char 'é') (Cursor.start "ééx") 'é' ⟨"ééx",2,['é','x']⟩ := by decide +kernel
  have plain : Repeats (char 'é') (Cursor.start "ééx") ['é','é'] ⟨"ééx",4,['x']⟩ :=
    .cons once (by decide) (.cons (by decide +kernel) (by decide) .nil)
  have stays : Succeeds (char 'é').optional ⟨"ééx",4,['x']⟩ none ⟨"ééx",4,['x']⟩ := by decide +kernel
  have refused : Fails (char 'é') ⟨"ééx",4,['x']⟩ ⟨⟨.unexpected "'é'" "'x'",⟨"ééx",4⟩⟩,false⟩ := by decide +kernel
  have maximal := many_maximal (char 'é').optional forward "ééx" _ .start
  have other := many_maximal (char 'é') single "ééx" _ .start
  have ended := (other.2.2.1 _ _).mpr ⟨plain,_,refused,rfl⟩
  exact ⟨forward,.start,maximal.2.1,steps,(maximal.2.2.2.1 _).mpr ⟨_,_,steps,.inr ⟨⟨none,_,stays,rfl⟩,rfl⟩⟩,ended,
    other.2.2.2.2 _ _ ended⟩

end CommittedParsing.Parser
