import CommittedParsing.Parser.Repeat
import CommittedParsing.Proofs.Parser.Outcome

namespace CommittedParsing.Parser

variable {α β : Type}

inductive Chain (step : Cursor → α → Cursor → Prop) : Cursor → List α → Cursor → Prop where
  | nil {cursor : Cursor} : Chain step cursor [] cursor
  | cons {cursor next stop : Cursor} {value : α} {values : List α} : step cursor value next →
      next.remaining < cursor.remaining → Chain step next values stop → Chain step cursor (value :: values) stop

-- The answer of a loop at a cursor: nothing where it is done, a failure where it breaks, else one more
-- value in front of what the loop answers after a step. One of the three happens everywhere.
structure Loop (answer : Cursor → Reply (List α)) (step : Cursor → α → Cursor → Prop)
    (done : Cursor → Prop) (broken : Cursor → Failure → Prop) : Prop where
  stops : ∀ {cursor}, done cursor → (answer cursor).outcome = .success [] cursor
  breaks : ∀ {cursor failed}, broken cursor failed → (answer cursor).outcome = .failure failed
  goes : ∀ {cursor value next}, step cursor value next → next.remaining < cursor.remaining →
    (answer cursor).outcome = ((answer next).map (value :: ·)).outcome
  total : ∀ cursor, done cursor ∨ (∃ failed, broken cursor failed) ∨
    ∃ value next, step cursor value next ∧ next.remaining < cursor.remaining

section Loop

variable {answer : Cursor → Reply (List α)} {step : Cursor → α → Cursor → Prop} {done : Cursor → Prop}
  {broken : Cursor → Failure → Prop} {cursor stop : Cursor} {values : List α} {failed : Failure}

theorem loop_sound (loop : Loop answer step done broken) (cursor : Cursor) :
    (∃ values stop, Chain step cursor values stop ∧ done stop ∧ (answer cursor).outcome = .success values stop) ∨
    ∃ values last failed, Chain step cursor values last ∧ broken last failed ∧
      (answer cursor).outcome = .failure failed := by
  induction size : cursor.remaining using Nat.strongRecOn generalizing cursor with
  | ind n ih =>
      rcases loop.total cursor with finished | ⟨failed,breaks⟩ | ⟨value,next,goes,less⟩
      · exact .inl ⟨[],cursor,.nil,finished,loop.stops finished⟩
      · exact .inr ⟨[],cursor,failed,.nil,breaks,loop.breaks breaks⟩
      · have answered := loop.goes goes less
        rcases ih _ (size ▸ less) next rfl with ⟨values,stop,chain,finished,ran⟩ | ⟨values,last,failed,chain,breaks,ran⟩
        · refine .inl ⟨value :: values,stop,.cons goes less chain,finished,?_⟩
          rw [answered]
          exact Reply.map_success_exact.mpr ⟨values,ran,rfl⟩
        · refine .inr ⟨value :: values,last,failed,.cons goes less chain,breaks,?_⟩
          rw [answered]
          exact Reply.map_failure_exact.mpr ran

theorem loop_done (loop : Loop answer step done broken) (chain : Chain step cursor values stop)
    (finished : done stop) : (answer cursor).outcome = .success values stop := by
  induction chain with
  | nil => exact loop.stops finished
  | cons goes less _ ih =>
      rw [loop.goes goes less]
      exact Reply.map_success_exact.mpr ⟨_,ih finished,rfl⟩

theorem loop_broken (loop : Loop answer step done broken) (chain : Chain step cursor values stop)
    (breaks : broken stop failed) : (answer cursor).outcome = .failure failed := by
  induction chain with
  | nil => exact loop.breaks breaks
  | cons goes less _ ih =>
      rw [loop.goes goes less]
      exact Reply.map_failure_exact.mpr (ih breaks)

theorem loop_success_exact (loop : Loop answer step done broken) :
    (answer cursor).outcome = .success values stop ↔ Chain step cursor values stop ∧ done stop := by
  constructor
  · intro success
    rcases loop_sound loop cursor with ⟨_,_,chain,finished,ran⟩ | ⟨_,_,_,_,_,ran⟩
    · rw [ran] at success
      cases success
      exact ⟨chain,finished⟩
    · rw [ran] at success
      cases success
  · exact fun ⟨chain,finished⟩ => loop_done loop chain finished

theorem loop_failure_exact (loop : Loop answer step done broken) :
    (answer cursor).outcome = .failure failed ↔ ∃ values last, Chain step cursor values last ∧ broken last failed := by
  constructor
  · intro failure
    rcases loop_sound loop cursor with ⟨_,_,_,_,ran⟩ | ⟨values,last,_,chain,breaks,ran⟩
    · rw [ran] at failure
      cases failure
    · rw [ran] at failure
      cases failure
      exact ⟨values,last,chain,breaks⟩
  · exact fun ⟨_,_,chain,breaks⟩ => loop_broken loop chain breaks

end Loop

def RepeatBroken (parser : Parser α) (start cursor : Cursor) (failed : Failure) : Prop :=
  Fails parser cursor failed ∧ failed.consumed = true ∨
    (∃ value next, Succeeds parser cursor value next ∧ ¬ next.remaining < cursor.remaining) ∧
      stuck start cursor = failed

def Round (item : Parser α) (separator : Parser β) (cursor : Cursor) (value : α) (next : Cursor) : Prop :=
  ∃ mark after, Succeeds separator cursor mark after ∧ Succeeds item after value next

def SeparatedBroken (item : Parser α) (separator : Parser β) (start cursor : Cursor) (failed : Failure) : Prop :=
  Fails separator cursor failed ∧ failed.consumed = true ∨
    (∃ mark after later, Succeeds separator cursor mark after ∧ Fails item after later ∧
      later.consumedIf (start.position < after.position) = failed) ∨
    (∃ value next, Round item separator cursor value next ∧ ¬ next.remaining < cursor.remaining) ∧
      stuck start cursor = failed

theorem repeatFrom_loop (parser : Parser α) (start : Cursor) :
    Loop (repeatFrom parser start) (Succeeds parser) (Declines parser) (RepeatBroken parser start) where
  stops := by
    intro cursor found
    obtain ⟨failed,ran,unread⟩ := found
    rw [repeatFrom]
    simp only [show (parser.run cursor).outcome = .failure failed from ran,unread,Bool.false_eq_true,if_false]
  breaks := by
    intro cursor failed found
    rcases found with ⟨ran,committed⟩ | ⟨⟨value,next,ran,same⟩,rfl⟩
    · rw [repeatFrom]
      simp only [show (parser.run cursor).outcome = .failure failed from ran,committed,if_true]
    · rw [repeatFrom]
      simp only [show (parser.run cursor).outcome = .success value next from ran,same,if_false]
  goes := by
    intro cursor value next ran less
    rw [repeatFrom]
    simp only [show (parser.run cursor).outcome = .success value next from ran,less,if_true]
  total := by
    intro cursor
    rcases answers parser cursor with ⟨value,next,ran⟩ | ⟨failed,ran⟩
    · by_cases less : next.remaining < cursor.remaining
      · exact .inr (.inr ⟨value,next,ran,less⟩)
      · exact .inr (.inl ⟨_,.inr ⟨⟨value,next,ran,less⟩,rfl⟩⟩)
    · cases committed : failed.consumed with
      | false => exact .inl ⟨failed,ran,committed⟩
      | true => exact .inr (.inl ⟨failed,.inl ⟨ran,committed⟩⟩)

theorem separatedFrom_loop (item : Parser α) (separator : Parser β) (start : Cursor) :
    Loop (separatedFrom item separator start) (Round item separator) (Declines separator)
      (SeparatedBroken item separator start) where
  stops := by
    intro cursor found
    obtain ⟨failed,ran,unread⟩ := found
    rw [separatedFrom]
    simp only [show (separator.run cursor).outcome = .failure failed from ran,unread,Bool.false_eq_true,if_false]
  breaks := by
    intro cursor failed found
    rcases found with ⟨ran,committed⟩ | ⟨mark,after,later,ran,missing,made⟩ | ⟨⟨value,next,⟨mark,after,ran,found⟩,same⟩,rfl⟩
    · rw [separatedFrom]
      simp only [show (separator.run cursor).outcome = .failure failed from ran,committed,if_true]
    · rw [separatedFrom]
      have refused := Reply.consumedIf_failure_exact.mpr ⟨later,missing,made⟩
      simp only [show (separator.run cursor).outcome = .success mark after from ran,refused]
    · rw [separatedFrom]
      have taken : ((item.run after).consumedIf (start.position < after.position)).outcome = .success value next :=
        Reply.consumedIf_success_exact.mpr found
      simp only [show (separator.run cursor).outcome = .success mark after from ran,taken,same,if_false]
  goes := by
    intro cursor value next found less
    obtain ⟨mark,after,ran,found⟩ := found
    rw [separatedFrom]
    have taken : ((item.run after).consumedIf (start.position < after.position)).outcome = .success value next :=
      Reply.consumedIf_success_exact.mpr found
    simp only [show (separator.run cursor).outcome = .success mark after from ran,taken,less,if_true]
  total := by
    intro cursor
    rcases answers separator cursor with ⟨mark,after,ran⟩ | ⟨failed,ran⟩
    · rcases answers item after with ⟨value,next,found⟩ | ⟨later,missing⟩
      · by_cases less : next.remaining < cursor.remaining
        · exact .inr (.inr ⟨value,next,⟨mark,after,ran,found⟩,less⟩)
        · exact .inr (.inl ⟨_,.inr (.inr ⟨⟨value,next,⟨mark,after,ran,found⟩,less⟩,rfl⟩)⟩)
      · exact .inr (.inl ⟨_,.inr (.inl ⟨mark,after,later,ran,missing,rfl⟩)⟩)
    · cases committed : failed.consumed with
      | false => exact .inl ⟨failed,ran,committed⟩
      | true => exact .inr (.inl ⟨failed,.inl ⟨ran,committed⟩⟩)

variable {parser item : Parser α} {separator : Parser β} {cursor stop : Cursor} {values : List α} {failed : Failure}

theorem many_succeeds :
    Succeeds parser.many cursor values stop ↔ Chain (Succeeds parser) cursor values stop ∧ Declines parser stop := by
  simp only [Succeeds,many]
  exact loop_success_exact (repeatFrom_loop parser cursor)

theorem many_fails : Fails parser.many cursor failed ↔
    ∃ values last, Chain (Succeeds parser) cursor values last ∧ RepeatBroken parser cursor last failed := by
  simp only [Fails,many]
  exact loop_failure_exact (repeatFrom_loop parser cursor)

theorem many1_succeeds :
    Succeeds parser.many1 cursor values stop ↔ ∃ value next others, Succeeds parser cursor value next ∧
      Chain (Succeeds parser) next others stop ∧ Declines parser stop ∧ value :: others = values := by
  simp only [Succeeds,many1,Reply.andThen_success_exact,Reply.map_success_exact,
    loop_success_exact (repeatFrom_loop parser cursor),and_assoc,exists_and_left]

theorem many1_fails :
    Fails parser.many1 cursor failed ↔ Fails parser cursor failed ∨ ∃ value next, Succeeds parser cursor value next ∧
      ∃ values last, Chain (Succeeds parser) next values last ∧ RepeatBroken parser cursor last failed := by
  simp only [Fails,Succeeds,many1,Reply.andThen_failure_exact,Reply.map_failure_exact,
    loop_failure_exact (repeatFrom_loop parser cursor)]

theorem separatedBy_succeeds :
    Succeeds (item.separatedBy separator) cursor values stop ↔ ∃ value next others, Succeeds item cursor value next ∧
      Chain (Round item separator) next others stop ∧ Declines separator stop ∧ value :: others = values := by
  simp only [Succeeds,separatedBy,Reply.andThen_success_exact,Reply.map_success_exact,
    loop_success_exact (separatedFrom_loop item separator cursor),and_assoc,exists_and_left]

theorem separatedBy_fails :
    Fails (item.separatedBy separator) cursor failed ↔ Fails item cursor failed ∨
      ∃ value next, Succeeds item cursor value next ∧
        ∃ values last, Chain (Round item separator) next values last ∧
          SeparatedBroken item separator cursor last failed := by
  simp only [Fails,Succeeds,separatedBy,Reply.andThen_failure_exact,Reply.map_failure_exact,
    loop_failure_exact (separatedFrom_loop item separator cursor)]

end CommittedParsing.Parser
