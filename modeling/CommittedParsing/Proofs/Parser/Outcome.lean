import CommittedParsing.Parser.Character
import CommittedParsing.Parser.Choice
import CommittedParsing.Parser.Entry
import CommittedParsing.Parser.Sequence
import CommittedParsing.Proofs.Cursor.Reads

namespace CommittedParsing

namespace Reply

variable {α β : Type} {reply : Reply α} {failed : Failure}

theorem andThen_success_exact {next : α → Cursor → Reply β} {value : β} {stop : Cursor} :
    (reply.andThen next).outcome = .success value stop ↔
      ∃ first middle, reply.outcome = .success first middle ∧ (next first middle).outcome = .success value stop := by
  rcases reply with ⟨⟨first,middle⟩ | failed,events⟩
  · simp only [andThen_success,Outcome.success.injEq]
    constructor
    · exact fun ran => ⟨first,middle,⟨rfl,rfl⟩,ran⟩
    · intro found
      obtain ⟨_,_,⟨rfl,rfl⟩,ran⟩ := found
      exact ran
  · simp

theorem andThen_failure_exact {next : α → Cursor → Reply β} :
    (reply.andThen next).outcome = .failure failed ↔ reply.outcome = .failure failed ∨
      ∃ first middle, reply.outcome = .success first middle ∧ (next first middle).outcome = .failure failed := by
  rcases reply with ⟨⟨first,middle⟩ | failed,events⟩
  · simp only [andThen_success,Outcome.success.injEq,reduceCtorEq,false_or]
    constructor
    · exact fun ran => ⟨first,middle,⟨rfl,rfl⟩,ran⟩
    · intro found
      obtain ⟨_,_,⟨rfl,rfl⟩,ran⟩ := found
      exact ran
  · simp

theorem recover_success_exact {other : Failure → Reply α} {value : α} {stop : Cursor} :
    (reply.recover other).outcome = .success value stop ↔ reply.outcome = .success value stop ∨
      ∃ first, reply.outcome = .failure first ∧ (other first).outcome = .success value stop := by
  rcases reply with ⟨first | failed,events⟩ <;> simp

theorem recover_failure_exact {other : Failure → Reply α} :
    (reply.recover other).outcome = .failure failed ↔
      ∃ first, reply.outcome = .failure first ∧ (other first).outcome = .failure failed := by
  rcases reply with ⟨first | failed,events⟩ <;> simp

theorem map_success_exact {f : α → β} {value : β} {stop : Cursor} :
    (reply.map f).outcome = .success value stop ↔ ∃ first, reply.outcome = .success first stop ∧ f first = value := by
  rcases reply with ⟨⟨first,middle⟩ | failed,events⟩
  · simp only [map_success,Outcome.success.injEq]
    constructor
    · intro found
      obtain ⟨made,same⟩ := found
      exact ⟨first,⟨rfl,same⟩,made⟩
    · intro found
      obtain ⟨_,⟨rfl,same⟩,made⟩ := found
      exact ⟨made,same⟩
  · simp

theorem map_failure_exact {f : α → β} :
    (reply.map f).outcome = .failure failed ↔ reply.outcome = .failure failed := by
  rcases reply with ⟨first | failed,events⟩ <;> simp

theorem mapFailure_success_exact {f : Failure → Failure} {value : α} {stop : Cursor} :
    (reply.mapFailure f).outcome = .success value stop ↔ reply.outcome = .success value stop := by
  rcases reply with ⟨first | failed,events⟩ <;> simp

theorem mapFailure_failure_exact {f : Failure → Failure} :
    (reply.mapFailure f).outcome = .failure failed ↔ ∃ first, reply.outcome = .failure first ∧ f first = failed := by
  rcases reply with ⟨first | failed,events⟩ <;> simp

theorem consumedIf_success_exact {advanced : Bool} {value : α} {stop : Cursor} :
    (reply.consumedIf advanced).outcome = .success value stop ↔ reply.outcome = .success value stop :=
  mapFailure_success_exact

theorem consumedIf_failure_exact {advanced : Bool} :
    (reply.consumedIf advanced).outcome = .failure failed ↔
      ∃ first, reply.outcome = .failure first ∧ first.consumedIf advanced = failed :=
  mapFailure_failure_exact

end Reply

namespace Parser

variable {α β γ : Type}

def Succeeds (parser : Parser α) (cursor : Cursor) (value : α) (stop : Cursor) : Prop :=
  (parser.run cursor).outcome = .success value stop

def Fails (parser : Parser α) (cursor : Cursor) (failed : Failure) : Prop :=
  (parser.run cursor).outcome = .failure failed

instance [DecidableEq α] (parser : Parser α) (cursor stop : Cursor) (value : α) :
    Decidable (Succeeds parser cursor value stop) :=
  inferInstanceAs (Decidable ((parser.run cursor).outcome = .success value stop))

instance [DecidableEq α] (parser : Parser α) (cursor : Cursor) (failed : Failure) :
    Decidable (Fails parser cursor failed) :=
  inferInstanceAs (Decidable ((parser.run cursor).outcome = .failure failed))

-- Fails without having consumed, so that a choice goes on and a loop stops.
def Declines (parser : Parser α) (cursor : Cursor) : Prop :=
  ∃ failed, Fails parser cursor failed ∧ failed.consumed = false

theorem succeeds_unique {parser : Parser α} {cursor stop other : Cursor} {value result : α}
    (first : Succeeds parser cursor value stop) (second : Succeeds parser cursor result other) :
    value = result ∧ stop = other := by
  unfold Succeeds at first second
  rw [first] at second
  cases second
  exact ⟨rfl,rfl⟩

theorem succeeds_not_fails {parser : Parser α} {cursor stop : Cursor} {value : α} {failed : Failure}
    (success : Succeeds parser cursor value stop) : ¬ Fails parser cursor failed := by
  intro failure
  unfold Succeeds at success
  unfold Fails at failure
  rw [success] at failure
  cases failure

theorem committed_not_declines {parser : Parser α} {cursor : Cursor} {failed : Failure}
    (failure : Fails parser cursor failed) (committed : failed.consumed = true) : ¬ Declines parser cursor := by
  intro declined
  obtain ⟨other,ran,unread⟩ := declined
  cases failure.symm.trans ran
  exact absurd (committed.symm.trans unread) (by decide)

theorem answers (parser : Parser α) (cursor : Cursor) :
    (∃ value stop, Succeeds parser cursor value stop) ∨ ∃ failed, Fails parser cursor failed := by
  unfold Succeeds Fails
  cases (parser.run cursor).outcome with
  | success value stop => exact .inl ⟨value,stop,rfl⟩
  | failure failed => exact .inr ⟨failed,rfl⟩

theorem succeeds_exactly {parser : Parser α} {cursor : Cursor} {read : List Char} {good : Prop} {value : α}
    (found : good → ∃ stop, cursor.Reads read stop ∧ Succeeds parser cursor value stop)
    (refused : ¬ good → ∃ failed, Fails parser cursor failed) :
    ((∃ result stop, Succeeds parser cursor result stop) ↔ good) ∧
    ∀ result stop, Succeeds parser cursor result stop → result = value ∧ cursor.Reads read stop := by
  have only {result : α} {stop : Cursor} (ran : Succeeds parser cursor result stop) : good := by
    by_cases holds : good
    · exact holds
    · obtain ⟨failed,missed⟩ := refused holds
      exact absurd missed (succeeds_not_fails ran)
  refine ⟨⟨fun ⟨_,_,ran⟩ => only ran,?_⟩,?_⟩
  · intro holds
    obtain ⟨stop,_,ran⟩ := found holds
    exact ⟨value,stop,ran⟩
  · intro result stop ran
    obtain ⟨place,passed,same⟩ := found (only ran)
    obtain ⟨rfl,rfl⟩ := succeeds_unique ran same
    exact ⟨rfl,passed⟩

section Leaves

variable {cursor stop : Cursor} {failed : Failure}

theorem pure_succeeds {value result : α} :
    Succeeds (Parser.pure value) cursor result stop ↔ value = result ∧ cursor = stop := by
  simp [Succeeds,Parser.pure]

theorem pure_fails {value : α} : ¬ Fails (Parser.pure value) cursor failed := by simp [Fails,Parser.pure]

theorem fail_succeeds {message : String} {value : α} : ¬ Succeeds (Parser.fail message) cursor value stop := by
  simp [Succeeds,fail]

theorem fail_fails {message : String} :
    Fails (Parser.fail message : Parser α) cursor failed ↔ Failure.clean (.rejected message) cursor.location = failed := by
  simp [Fails,fail]

theorem satisfy_succeeds {test : Char → Bool} {expected : String} {c : Char} :
    Succeeds (satisfy test expected) cursor c stop ↔ cursor.Reads [c] stop ∧ test c = true := by
  simp only [Succeeds,satisfy]
  cases advanced : cursor.advance with
  | error fault =>
      have atEnd := (Cursor.advance_end cursor).mp ⟨fault,advanced⟩
      simp [Cursor.Reads,atEnd]
  | ok step =>
      obtain ⟨first,next⟩ := step
      rw [← Cursor.advance_reads,advanced]
      by_cases passes : test first = true
      · simp only [passes,if_true,Reply.success_outcome,Outcome.success.injEq,Except.ok.injEq,Prod.mk.injEq]
        constructor
        · intro ran
          obtain ⟨rfl,rfl⟩ := ran
          exact ⟨⟨rfl,rfl⟩,passes⟩
        · exact And.left
      · simp only [passes,Bool.false_eq_true,if_false,Reply.failure_outcome,reduceCtorEq,Except.ok.injEq,Prod.mk.injEq,false_iff]
        intro found
        obtain ⟨⟨rfl,_⟩,accepted⟩ := found
        exact passes accepted

theorem satisfy_fails {test : Char → Bool} {expected : String} :
    Fails (satisfy test expected) cursor failed ↔
      (cursor.peek? = none ∧ Failure.clean (.endOfInput expected) cursor.location = failed) ∨
      ∃ c, cursor.peek? = some c ∧ test c = false ∧
        Failure.clean (.unexpected expected (Text.quotedChar c)) cursor.location = failed := by
  simp only [Fails,satisfy,Cursor.peek?]
  cases ahead : cursor.rest with
  | nil => simp [Cursor.advance,ahead]
  | cons c rest =>
      simp only [Cursor.advance,ahead,List.head?_cons,reduceCtorEq,false_and,false_or,Option.some.injEq]
      cases passes : test c with
      | true => simp [passes]
      | false => simp [passes]

theorem eof_succeeds {value : Unit} : Succeeds eof cursor value stop ↔ cursor = stop ∧ cursor.peek? = none := by
  simp only [Succeeds,eof]
  cases cursor.peek? <;> simp

theorem eof_fails : Fails eof cursor failed ↔
    ∃ c, cursor.peek? = some c ∧ Failure.clean (.trailing c) cursor.location = failed := by
  simp only [Fails,eof]
  cases cursor.peek? <;> simp

end Leaves

section Combined

variable {parser first : Parser α} {second : Parser β} {cursor stop : Cursor} {failed : Failure}

theorem map_succeeds {f : α → β} {value : β} :
    Succeeds (parser.map f) cursor value stop ↔ ∃ inner, Succeeds parser cursor inner stop ∧ f inner = value :=
  Reply.map_success_exact

theorem map_fails {f : α → β} : Fails (parser.map f) cursor failed ↔ Fails parser cursor failed :=
  Reply.map_failure_exact

theorem mapReporting_succeeds {f : α → β × List Event} {value : β} :
    Succeeds (parser.mapReporting f) cursor value stop ↔
      ∃ inner, Succeeds parser cursor inner stop ∧ (f inner).1 = value := by
  simp only [Succeeds,mapReporting,Reply.andThen_success_exact,Outcome.success.injEq]
  constructor
  · intro ran
    obtain ⟨inner,_,ran,made,rfl⟩ := ran
    exact ⟨inner,ran,made⟩
  · intro ended
    obtain ⟨inner,ran,made⟩ := ended
    exact ⟨inner,stop,ran,made,rfl⟩

theorem mapReporting_fails {f : α → β × List Event} :
    Fails (parser.mapReporting f) cursor failed ↔ Fails parser cursor failed := by
  simp [Fails,mapReporting,Reply.andThen_failure_exact]

theorem tryMap_succeeds {convert : α → Except String β} {value : β} :
    Succeeds (parser.tryMap convert) cursor value stop ↔
      ∃ inner, Succeeds parser cursor inner stop ∧ convert inner = .ok value := by
  simp only [Succeeds,tryMap,Reply.andThen_success_exact]
  constructor
  · intro ran
    obtain ⟨inner,middle,ran,made⟩ := ran
    cases converted : convert inner with
    | error message => simp [converted] at made
    | ok result =>
        simp only [converted,Reply.success_outcome,Outcome.success.injEq] at made
        obtain ⟨rfl,rfl⟩ := made
        exact ⟨inner,ran,converted⟩
  · intro ended
    obtain ⟨inner,ran,converted⟩ := ended
    exact ⟨inner,stop,ran,by simp [converted]⟩

theorem tryMap_fails {convert : α → Except String β} :
    Fails (parser.tryMap convert) cursor failed ↔ Fails parser cursor failed ∨
      ∃ inner middle message, Succeeds parser cursor inner middle ∧ convert inner = .error message ∧
        (Failure.clean (.rejected message) cursor.location).consumedIf (cursor.position < middle.position) = failed := by
  simp only [Fails,Succeeds,tryMap,Reply.andThen_failure_exact]
  refine or_congr_right ?_
  constructor
  · intro ran
    obtain ⟨inner,middle,ran,made⟩ := ran
    cases converted : convert inner with
    | ok result => simp [converted] at made
    | error message =>
        simp only [converted,Reply.failure_outcome,Outcome.failure.injEq] at made
        exact ⟨inner,middle,message,ran,converted,made⟩
  · intro ended
    obtain ⟨inner,middle,message,ran,converted,rfl⟩ := ended
    exact ⟨inner,middle,ran,by simp [converted]⟩

theorem bind_succeeds {next : α → Parser β} {value : β} :
    Succeeds (parser.bind next) cursor value stop ↔
      ∃ inner middle, Succeeds parser cursor inner middle ∧ Succeeds (next inner) middle value stop := by
  simp only [Succeeds,Parser.bind,Reply.andThen_success_exact,Reply.consumedIf_success_exact]

theorem bind_fails {next : α → Parser β} :
    Fails (parser.bind next) cursor failed ↔ Fails parser cursor failed ∨
      ∃ inner middle later, Succeeds parser cursor inner middle ∧ Fails (next inner) middle later ∧
        later.consumedIf (cursor.position < middle.position) = failed := by
  simp only [Fails,Succeeds,Parser.bind,Reply.andThen_failure_exact,Reply.consumedIf_failure_exact,exists_and_left]

theorem pair_succeeds {values : α × β} :
    Succeeds (first.pair second) cursor values stop ↔
      ∃ middle, Succeeds first cursor values.1 middle ∧ Succeeds second middle values.2 stop := by
  obtain ⟨a,b⟩ := values
  simp only [Succeeds,pair,Reply.andThen_success_exact,Reply.map_success_exact,Reply.consumedIf_success_exact,Prod.mk.injEq]
  constructor
  · intro ran
    obtain ⟨_,middle,ran,_,later,rfl,rfl⟩ := ran
    exact ⟨middle,ran,later⟩
  · intro ended
    obtain ⟨middle,ran,later⟩ := ended
    exact ⟨a,middle,ran,b,later,rfl,rfl⟩

theorem pair_fails :
    Fails (first.pair second) cursor failed ↔ Fails first cursor failed ∨
      ∃ inner middle later, Succeeds first cursor inner middle ∧ Fails second middle later ∧
        later.consumedIf (cursor.position < middle.position) = failed := by
  simp only [Fails,Succeeds,pair,Reply.andThen_failure_exact,Reply.map_failure_exact,Reply.consumedIf_failure_exact,
    exists_and_left]

theorem left_succeeds {value : α} :
    Succeeds (first.left second) cursor value stop ↔
      ∃ middle other, Succeeds first cursor value middle ∧ Succeeds second middle other stop := by
  simp only [left,map_succeeds,pair_succeeds]
  constructor
  · intro ran
    obtain ⟨values,⟨middle,ran,later⟩,rfl⟩ := ran
    exact ⟨middle,values.2,ran,later⟩
  · intro ended
    obtain ⟨middle,other,ran,later⟩ := ended
    exact ⟨(value,other),⟨middle,ran,later⟩,rfl⟩

theorem right_succeeds {value : β} :
    Succeeds (first.right second) cursor value stop ↔
      ∃ middle other, Succeeds first cursor other middle ∧ Succeeds second middle value stop := by
  simp only [right,map_succeeds,pair_succeeds]
  constructor
  · intro ran
    obtain ⟨values,⟨middle,ran,later⟩,rfl⟩ := ran
    exact ⟨middle,values.1,ran,later⟩
  · intro ended
    obtain ⟨middle,other,ran,later⟩ := ended
    exact ⟨(other,value),⟨middle,ran,later⟩,rfl⟩

theorem between_succeeds {opening : Parser α} {content : Parser β} {closing : Parser γ} {value : β} :
    Succeeds (between opening content closing) cursor value stop ↔
      ∃ mark opened filled last, Succeeds opening cursor mark opened ∧ Succeeds content opened value filled ∧
        Succeeds closing filled last stop := by
  simp only [Succeeds,between,Reply.andThen_success_exact,Reply.map_success_exact,Reply.consumedIf_success_exact]
  constructor
  · intro ran
    obtain ⟨mark,opened,ran,_,filled,inside,last,closed,rfl⟩ := ran
    exact ⟨mark,opened,filled,last,ran,inside,closed⟩
  · intro ended
    obtain ⟨mark,opened,filled,last,ran,inside,closed⟩ := ended
    exact ⟨mark,opened,ran,value,filled,inside,last,closed,rfl⟩

theorem between_fails {opening : Parser α} {content : Parser β} {closing : Parser γ} :
    Fails (between opening content closing) cursor failed ↔ Fails opening cursor failed ∨
      (∃ mark opened later, Succeeds opening cursor mark opened ∧ Fails content opened later ∧
        later.consumedIf (cursor.position < opened.position) = failed) ∨
      ∃ mark opened value filled later, Succeeds opening cursor mark opened ∧ Succeeds content opened value filled ∧
        Fails closing filled later ∧ later.consumedIf (cursor.position < filled.position) = failed := by
  simp only [Fails,Succeeds,between,Reply.andThen_failure_exact,Reply.map_failure_exact,
    Reply.consumedIf_failure_exact,Reply.consumedIf_success_exact,exists_and_left,← exists_or,← and_or_left]

theorem orElse_succeeds {other : Parser α} {value : α} :
    Succeeds (parser.orElse other) cursor value stop ↔ Succeeds parser cursor value stop ∨
      Declines parser cursor ∧ Succeeds other cursor value stop := by
  simp only [Succeeds,Declines,Fails,orElse,Reply.recover_success_exact]
  refine or_congr_right ?_
  constructor
  · intro ran
    obtain ⟨dropped,ran,later⟩ := ran
    cases committed : dropped.consumed with
    | true => simp [committed] at later
    | false => exact ⟨⟨dropped,ran,committed⟩,by simpa [committed] using later⟩
  · intro ended
    obtain ⟨⟨dropped,ran,committed⟩,later⟩ := ended
    exact ⟨dropped,ran,by simpa [committed] using later⟩

theorem orElse_fails {other : Parser α} :
    Fails (parser.orElse other) cursor failed ↔ Fails parser cursor failed ∧ failed.consumed = true ∨
      Declines parser cursor ∧ Fails other cursor failed := by
  simp only [Declines,Fails,orElse,Reply.recover_failure_exact]
  constructor
  · intro ran
    obtain ⟨dropped,ran,later⟩ := ran
    cases committed : dropped.consumed with
    | true =>
        simp only [committed,if_true,Reply.failure_outcome,Outcome.failure.injEq] at later
        exact .inl (later ▸ ⟨ran,committed⟩)
    | false => exact .inr ⟨⟨dropped,ran,committed⟩,by simpa [committed] using later⟩
  · intro ended
    rcases ended with ⟨ran,committed⟩ | ⟨⟨dropped,ran,committed⟩,later⟩
    · exact ⟨failed,ran,by simp [committed]⟩
    · exact ⟨dropped,ran,by simpa [committed] using later⟩

theorem attempt_succeeds {value : α} :
    Succeeds parser.attempt cursor value stop ↔ Succeeds parser cursor value stop :=
  Reply.mapFailure_success_exact

theorem attempt_fails :
    Fails parser.attempt cursor failed ↔ ∃ inner, Fails parser cursor inner ∧ inner.rewind = failed :=
  Reply.mapFailure_failure_exact

theorem optional_succeeds {value : Option α} :
    Succeeds parser.optional cursor value stop ↔
      (∃ inner, Succeeds parser cursor inner stop ∧ some inner = value) ∨
      (∃ inner, Fails parser cursor inner) ∧ none = value ∧ cursor = stop := by
  simp only [Succeeds,Fails,optional,Reply.recover_success_exact,Reply.map_success_exact,Reply.map_failure_exact,
    Reply.success_outcome,Outcome.success.injEq,exists_and_right]

theorem optional_fails : ¬ Fails parser.optional cursor failed := by
  simp [Fails,optional,Reply.recover_failure_exact]

theorem withSpan_succeeds {value : α} {span : Span} :
    Succeeds parser.withSpan cursor (value,span) stop ↔
      Succeeds parser cursor value stop ∧ ⟨cursor.source,cursor.position,stop.position⟩ = span := by
  simp only [Succeeds,withSpan,Reply.andThen_success_exact,Reply.success_outcome,Outcome.success.injEq,Prod.mk.injEq]
  constructor
  · intro ran
    obtain ⟨_,_,ran,⟨rfl,made⟩,rfl⟩ := ran
    exact ⟨ran,made⟩
  · intro ended
    obtain ⟨ran,made⟩ := ended
    exact ⟨value,stop,ran,⟨rfl,made⟩,rfl⟩

theorem withSpan_fails : Fails parser.withSpan cursor failed ↔ Fails parser cursor failed := by
  simp [Fails,withSpan,Reply.andThen_failure_exact]

theorem recognize_succeeds {text : String} :
    Succeeds parser.recognize cursor text stop ↔
      (∃ value, Succeeds parser cursor value stop) ∧ cursor.textUpTo stop = text := by
  simp only [Succeeds,recognize,Reply.andThen_success_exact,Reply.success_outcome,Outcome.success.injEq]
  constructor
  · intro ran
    obtain ⟨value,_,ran,made,rfl⟩ := ran
    exact ⟨⟨value,ran⟩,made⟩
  · intro ended
    obtain ⟨⟨value,ran⟩,made⟩ := ended
    exact ⟨value,stop,ran,made,rfl⟩

theorem recognize_fails : Fails parser.recognize cursor failed ↔ Fails parser cursor failed := by
  simp [Fails,recognize,Reply.andThen_failure_exact]

end Combined

section Entry

variable {parser : Parser α} {text : String}

theorem parse_outcome : (parser.parse text).outcome = (parser.run (Cursor.start text)).outcome := by
  unfold parse
  cases ran : (parser.run (Cursor.start text)).outcome <;> simp [ran]

theorem parseComplete_succeeds {value : α} : (parser.parseComplete text).result = .ok value ↔
    ∃ stop, Succeeds parser (Cursor.start text) value stop ∧ stop.peek? = none := by
  simp only [Succeeds,← parse_outcome,parseComplete]
  cases (parser.parse text).outcome with
  | failure failed => simp
  | success first stop =>
      simp only [Outcome.success.injEq]
      cases ended : (eof.run stop).outcome with
      | success _ last =>
          obtain ⟨_,atEnd⟩ := eof_succeeds.mp ended
          simp only [Except.ok.injEq]
          constructor
          · intro same
            subst same
            exact ⟨stop,⟨rfl,rfl⟩,atEnd⟩
          · intro ran
            obtain ⟨_,⟨rfl,rfl⟩,_⟩ := ran
            rfl
      | failure failed =>
          obtain ⟨c,ahead,_⟩ := eof_fails.mp ended
          simp only [reduceCtorEq,false_iff,not_exists]
          intro _ found
          obtain ⟨⟨_,rfl⟩,atEnd⟩ := found
          rw [ahead] at atEnd
          cases atEnd

end Entry

end Parser

end CommittedParsing
