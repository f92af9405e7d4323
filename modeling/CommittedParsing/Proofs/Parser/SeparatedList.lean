import CommittedParsing.Proofs.Parser.Regrouping
import CommittedParsing.Proofs.Parser.Rounds

namespace CommittedParsing.Parser

open Cursor

variable {α β : Type} {item : Parser α} {separator : Parser β} {source : String} {start cursor : Cursor}

-- The failures of the repetition are committed, so that committing them once more makes no difference; and the place
-- that it measures progress from does not matter, since no round is stuck.
theorem separatedFrom_repeats (within : Forward item) (between : Forward separator) (advancing : Advancing separator)
    (place : Cursor) (advanced : Bool) (reached : Reached source cursor) (reach : start.position ≤ cursor.position) :
    separatedFrom item separator start cursor =
      (repeatFrom (separator.right item) place cursor).consumedIf advanced := by
  induction size : cursor.remaining using Nat.strongRecOn generalizing cursor with
  | ind n ih =>
      cases ran : separator.run cursor with
      | mk outcome events =>
      cases outcome with
      | failure failed =>
          rw [separatedFrom_ends ran,repeatFrom_ends (round_ends ran)]
          cases committed : failed.consumed with
          | false => rfl
          | true => simp only [if_true,Reply.consumedIf_failure,Failure.consumedIf_committed committed]
      | success mark after =>
      have further : cursor.position < after.position := advancing reached (congrArg Reply.outcome ran)
      obtain ⟨inside,_⟩ := between reached (congrArg Reply.outcome ran)
      cases taken : item.run after with
      | mk outcome more =>
      cases outcome with
      | failure failed =>
          have onward : start.position < after.position := Nat.lt_of_le_of_lt reach further
          rw [separatedFrom_misses ran taken,repeatFrom_ends (round_misses ran taken)]
          simp only [onward,further,decide_true,Failure.consumedIf_consumed,Bool.or_true,if_true,
            Reply.consumedIf_failure,Failure.consumedIf_consumedIf,Bool.true_or]
      | success value next =>
          obtain ⟨ended,far⟩ := within inside (congrArg Reply.outcome taken)
          have passed : cursor.position < next.position := Nat.lt_of_lt_of_le further far
          have less := further_less reached (reached_ahead reached ended (Nat.le_of_lt passed)) passed
          have later := ih _ (size ▸ less) ended (Nat.le_trans reach (Nat.le_of_lt passed)) rfl
          rw [separatedFrom_goes ran taken less,repeatFrom_goes (round_goes ran taken) less,later]
          rcases repeatFrom (separator.right item) place next with ⟨success | failed,rest⟩ <;> rfl

theorem separatedBy_interchanges (within : Forward item) (between : Forward separator)
    (advancing : Advancing separator) : Interchangeable (item.separatedBy separator)
      ((item.pair (separator.right item).many).map fun (value,values) => value :: values) := by
  intro source cursor reached
  simp only [separatedBy,map,pair,many]
  cases ran : item.run cursor with
  | mk outcome events =>
  cases outcome with
  | failure failed => rfl
  | success value next =>
      obtain ⟨inside,near⟩ := within reached (congrArg Reply.outcome ran)
      have loops := separatedFrom_repeats within between advancing next (cursor.position < next.position) inside near
      simp only [Reply.andThen_success,loops]
      rcases (repeatFrom (separator.right item) next next).consumedIf (cursor.position < next.position) with
        ⟨success | failed,rest⟩ <;> rfl

theorem separatedBy_missing (within : Forward item) (between : Forward separator) (advancing : Advancing separator)
    {next last after : Cursor} {value : α} {values : List α} {mark : β} {failed : Failure}
    (reached : Reached source cursor) (first : Succeeds item cursor value next)
    (chain : Chain (Round item separator) next values last) (ran : Succeeds separator last mark after)
    (missing : Fails item after failed) : Fails (item.separatedBy separator) cursor ⟨failed.fault,true⟩ := by
  obtain ⟨inside,near⟩ := within reached first
  obtain ⟨ended,far⟩ := chain_forward (round_forward within between) inside chain
  have further : cursor.position < after.position :=
    Nat.lt_of_le_of_lt (Nat.le_trans near far) (advancing ended ran)
  have committed : failed.consumedIf (cursor.position < after.position) = ⟨failed.fault,true⟩ := by
    simp [Failure.consumedIf,further]
  exact separatedBy_fails.mpr (.inr ⟨value,next,first,values,last,chain,.inr (.inl ⟨mark,after,failed,ran,missing,committed⟩)⟩)

-- A separated list and the repetition give the same replies; a separator without an item after it is never left
-- behind the list, but a failure that has committed.
theorem separatedBy_regroups (item : Parser α) (separator : Parser β) (within : Forward item)
    (between : Forward separator) (advancing : Advancing separator) :
    Interchangeable (item.separatedBy separator)
      ((item.pair (separator.right item).many).map fun (value,values) => value :: values) ∧
    (∀ cursor values stop, Succeeds (item.separatedBy separator) cursor values stop → Declines separator stop) ∧
    ∀ source cursor value next values last mark after failed, Reached source cursor →
      Succeeds item cursor value next → Chain (Round item separator) next values last →
      Succeeds separator last mark after → Fails item after failed →
      Fails (item.separatedBy separator) cursor ⟨failed.fault,true⟩ := by
  refine ⟨separatedBy_interchanges within between advancing,?_,?_⟩
  · intro cursor values stop ran
    obtain ⟨_,_,_,_,_,declined,_⟩ := separatedBy_succeeds.mp ran
    exact declined
  · intro source cursor value next values last mark after failed reached first chain ran missing
    exact separatedBy_missing within between advancing reached first chain ran missing

theorem missing_digit_regroups :
    Forward (satisfy Char.isDigit "digit") ∧ Forward (char ',') ∧ Advancing (char ',') ∧
    Reached "é1,2,x" ⟨"é1,2,x",2,"1,2,x".toList⟩ ∧
    Fails ((satisfy Char.isDigit "digit").separatedBy (char ',')) ⟨"é1,2,x",2,"1,2,x".toList⟩
      ⟨⟨.unexpected "digit" "'x'",⟨"é1,2,x",6⟩⟩,true⟩ ∧
    Fails (((satisfy Char.isDigit "digit").pair ((char ',').right (satisfy Char.isDigit "digit")).many).map
      fun (value,values) => value :: values) ⟨"é1,2,x",2,"1,2,x".toList⟩
      ⟨⟨.unexpected "digit" "'x'",⟨"é1,2,x",6⟩⟩,true⟩ := by
  let digit : Parser Char := satisfy Char.isDigit "digit"
  have items : Composed .everything digit := .satisfy _ _
  have marks : Composed .everything (char ',') := .satisfy _ _
  have within : Forward digit := composed_forward items
  have between : Forward (char ',') := composed_forward marks
  have advancing : Advancing (char ',') := satisfy_advancing _ _
  have reached : Reached "é1,2,x" ⟨"é1,2,x",2,"1,2,x".toList⟩ := .advance .start
    ((advance_exact _ 'é' _).mpr (by decide +kernel))
  have regroups := separatedBy_regroups digit (char ',') within between advancing
  have round : Round digit (char ',') ⟨"é1,2,x",3,",2,x".toList⟩ '2' ⟨"é1,2,x",5,",x".toList⟩ :=
    ⟨',',⟨"é1,2,x",4,"2,x".toList⟩,by decide +kernel,by decide +kernel⟩
  have failed : Fails (digit.separatedBy (char ',')) ⟨"é1,2,x",2,"1,2,x".toList⟩
      ⟨⟨.unexpected "digit" "'x'",⟨"é1,2,x",6⟩⟩,true⟩ :=
    regroups.2.2 _ _ '1' _ ['2'] _ ',' ⟨"é1,2,x",6,['x']⟩ ⟨⟨.unexpected "digit" "'x'",⟨"é1,2,x",6⟩⟩,false⟩ reached
      (by decide +kernel) (.cons round (by decide) .nil) (by decide +kernel) (by decide +kernel)
  refine ⟨within,between,advancing,reached,failed,?_⟩
  unfold Fails at failed ⊢
  rw [← regroups.1 reached]
  exact failed

end CommittedParsing.Parser
