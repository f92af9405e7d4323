import CommittedParsing.Proofs.Parser.Derived
import CommittedParsing.Proofs.Parser.Location

namespace CommittedParsing.Parser

open Cursor

variable {α β γ : Type}

-- What an answer shows before a character is taken: the parser stays where it is with a value, or declines with a
-- cause, or commits, in which case it reads on or fails for good.
inductive Glance (α : Type) where
  | stays (value : α)
  | declines (cause : Cause) (offset : Nat)
  | commits

namespace Glance

def map (f : α → β) : Glance α → Glance β
  | .stays value => .stays (f value)
  | .declines cause offset => .declines cause offset
  | .commits => .commits

def andThen (shown : Glance α) (next : α → Glance β) : Glance β :=
  match shown with
  | .stays value => next value
  | .declines cause offset => .declines cause offset
  | .commits => .commits

def orElse (shown instead : Glance α) : Glance α :=
  match shown with
  | .declines .. => instead
  | settled => settled

def loop (offset : Nat) (nothing : β) : Glance α → Glance β
  | .stays _ => .declines .noProgress offset
  | .declines .. => .stays nothing
  | .commits => .commits

def ofCheck (offset : Nat) : Except String α → Glance α
  | .ok value => .stays value
  | .error message => .declines (.rejected message) offset

end Glance

def glance (parser : Parser α) (cursor : Cursor) : Glance α :=
  match (parser.run cursor).outcome with
  | .success value stop => if stop.position = cursor.position then .stays value else .commits
  | .failure failed => if failed.consumed then .commits else .declines failed.fault.cause failed.position

-- Every success goes on, and every failure has committed.
structure Commits (parser : Parser α) (cursor : Cursor) : Prop where
  onward : ∀ {value stop}, Succeeds parser cursor value stop → cursor.position < stop.position
  committed : ∀ {failed}, Fails parser cursor failed → failed.consumed = true

inductive Look (parser : Parser α) (cursor : Cursor) : Prop where
  | stays {value : α} : Succeeds parser cursor value cursor → Look parser cursor
  | declines {failed : Failure} : Fails parser cursor failed → failed.consumed = false → Look parser cursor
  | commits : Commits parser cursor → Look parser cursor

section Glances

variable {parser : Parser α} {cursor : Cursor}

theorem glance_stays_exact {value : α} : glance parser cursor = .stays value ↔
    ∃ stop, Succeeds parser cursor value stop ∧ stop.position = cursor.position := by
  unfold glance Succeeds
  cases (parser.run cursor).outcome with
  | success first stop =>
      by_cases same : stop.position = cursor.position
      · simp only [same,if_true,Glance.stays.injEq,Outcome.success.injEq]
        constructor
        · rintro rfl
          exact ⟨stop,⟨rfl,rfl⟩,same⟩
        · rintro ⟨_,⟨found,_⟩,_⟩
          exact found
      · simp only [same,if_false,reduceCtorEq,Outcome.success.injEq,false_iff]
        rintro ⟨_,⟨_,rfl⟩,stayed⟩
        exact same stayed
  | failure failed => cases committed : failed.consumed <;> simp [committed]

theorem glance_declines_exact {cause : Cause} {offset : Nat} : glance parser cursor = .declines cause offset ↔
    ∃ failed, Fails parser cursor failed ∧ failed.consumed = false ∧ failed.fault.cause = cause ∧
      failed.position = offset := by
  unfold glance Fails
  cases (parser.run cursor).outcome with
  | success first stop => by_cases same : stop.position = cursor.position <;> simp [same]
  | failure failed => cases committed : failed.consumed <;> simp [committed]

theorem declines_glance_exact :
    Declines parser cursor ↔ ∃ cause offset, glance parser cursor = .declines cause offset := by
  simp only [glance_declines_exact]
  constructor
  · rintro ⟨failed,ran,unread⟩
    exact ⟨_,_,failed,ran,unread,rfl,rfl⟩
  · rintro ⟨_,_,failed,ran,unread,_⟩
    exact ⟨failed,ran,unread⟩

theorem glance_stays {value : α} (ran : Succeeds parser cursor value cursor) : glance parser cursor = .stays value :=
  glance_stays_exact.mpr ⟨cursor,ran,rfl⟩

theorem glance_declines {failed : Failure} (ran : Fails parser cursor failed) (unread : failed.consumed = false) :
    glance parser cursor = .declines failed.fault.cause failed.position :=
  glance_declines_exact.mpr ⟨failed,ran,unread,rfl,rfl⟩

theorem glance_commits (commits : Commits parser cursor) : glance parser cursor = .commits := by
  cases shown : glance parser cursor with
  | stays value =>
      obtain ⟨stop,ran,same⟩ := glance_stays_exact.mp shown
      exact absurd (commits.onward ran) (by omega)
  | declines cause offset =>
      obtain ⟨failed,ran,unread,_⟩ := glance_declines_exact.mp shown
      exact absurd (unread.symm.trans (commits.committed ran)) (by decide)
  | commits => rfl

theorem glance_congr {other : Parser α} (same : (parser.run cursor).outcome = (other.run cursor).outcome) :
    glance parser cursor = glance other cursor := by
  unfold glance
  rw [same]

theorem look (onward : Onward parser) (cursor : Cursor) : Look parser cursor := by
  rcases answers parser cursor with ⟨value,stop,ran⟩ | ⟨failed,ran⟩
  · rcases ahead_cases (onward.success ran) with rfl | further
    · exact .stays ran
    · refine .commits ⟨?_,fun other => absurd other (succeeds_not_fails ran)⟩
      intro _ _ other
      obtain ⟨_,rfl⟩ := succeeds_unique ran other
      exact further
  · cases committed : failed.consumed with
    | false => exact .declines ran committed
    | true =>
        refine .commits ⟨fun other => absurd ran (succeeds_not_fails other),?_⟩
        intro _ other
        cases ran.symm.trans other
        exact committed

theorem commits_not_declines (commits : Commits parser cursor) : ¬ Declines parser cursor := by
  rintro ⟨failed,ran,unread⟩
  exact absurd (unread.symm.trans (commits.committed ran)) (by decide)

theorem declines_orElse : Declines parser cursor ↔
    ∀ other, ((parser.orElse other).run cursor).outcome = (other.run cursor).outcome := by
  constructor
  · intro declined other
    rcases answers other cursor with ⟨value,stop,later⟩ | ⟨second,later⟩
    · exact (orElse_succeeds.mpr (.inr ⟨declined,later⟩)).trans later.symm
    · exact (orElse_fails.mpr (.inr ⟨declined,later⟩)).trans later.symm
  · intro answered
    -- A second branch that only declines shows whether it ran.
    have refused : Fails (parser.orElse (Parser.fail "")) cursor (.clean (.rejected "") cursor.location) :=
      answered (Parser.fail "")
    rcases orElse_fails.mp refused with ⟨_,committed⟩ | ⟨declined,_⟩
    · cases committed
    · exact declined

theorem declines_repeatFrom {start : Cursor} :
    Declines parser cursor ↔ (repeatFrom parser start cursor).outcome = .success [] cursor := by
  rw [loop_success_exact (repeatFrom_loop parser start)]
  exact ⟨fun declined => ⟨.nil,declined⟩,And.right⟩

theorem declines_separatedFrom {item : Parser β} {start : Cursor} :
    Declines parser cursor ↔ (separatedFrom item parser start cursor).outcome = .success [] cursor := by
  rw [loop_success_exact (separatedFrom_loop item parser start)]
  exact ⟨fun declined => ⟨.nil,declined⟩,And.right⟩

end Glances

section Leaves

variable {cursor : Cursor}

theorem satisfy_glance (test : Char → Bool) (expected : String) :
    glance (satisfy test expected) cursor =
      match cursor.peek? with
      | none => .declines (.endOfInput expected) cursor.position
      | some c => if test c then .commits else .declines (.unexpected expected (Text.quotedChar c)) cursor.position := by
  cases ahead : cursor.peek? with
  | none => exact glance_declines (satisfy_fails.mpr (.inl ⟨ahead,rfl⟩)) rfl
  | some c =>
      cases passes : test c with
      | false =>
          simp only [passes]
          exact glance_declines (satisfy_fails.mpr (.inr ⟨c,ahead,passes,rfl⟩)) rfl
      | true =>
          simp only [passes]
          refine glance_commits ⟨?_,?_⟩
          · intro value stop ran
            exact (reads_further (satisfy_succeeds.mp ran).1).mpr (List.cons_ne_nil _ _)
          · intro failed ran
            rcases satisfy_fails.mp ran with ⟨missing,_⟩ | ⟨other,found,refused,_⟩
            · cases ahead.symm.trans missing
            · cases ahead.symm.trans found
              cases passes.symm.trans refused

theorem eof_glance : glance eof cursor =
    match cursor.peek? with
    | none => .stays ()
    | some c => .declines (.trailing c) cursor.position := by
  cases ahead : cursor.peek? with
  | none => exact glance_stays (eof_succeeds.mpr ⟨rfl,ahead⟩)
  | some c => exact glance_declines (eof_fails.mpr ⟨c,ahead,rfl⟩) rfl

theorem pure_glance (value : α) : glance (Parser.pure value) cursor = .stays value :=
  glance_stays (pure_succeeds.mpr ⟨rfl,rfl⟩)

theorem fail_glance (message : String) :
    glance (Parser.fail message : Parser α) cursor = .declines (.rejected message) cursor.position :=
  glance_declines (fail_fails.mpr rfl) rfl

end Leaves

section Combined

variable {parser first : Parser α} {second : Parser β} {cursor : Cursor}

theorem map_glance (f : α → β) (onward : Onward parser) :
    glance (parser.map f) cursor = (glance parser cursor).map f := by
  cases look onward cursor with
  | stays ran =>
      rw [glance_stays ran]
      exact glance_stays (map_succeeds.mpr ⟨_,ran,rfl⟩)
  | declines ran unread =>
      rw [glance_declines ran unread]
      exact glance_declines (map_fails.mpr ran) unread
  | commits commits =>
      rw [glance_commits commits]
      refine glance_commits ⟨?_,fun failed => commits.committed (map_fails.mp failed)⟩
      intro value stop ran
      obtain ⟨_,inner,_⟩ := map_succeeds.mp ran
      exact commits.onward inner

theorem tryMap_glance (convert : α → Except String β) (onward : Onward parser) :
    glance (parser.tryMap convert) cursor =
      (glance parser cursor).andThen fun value => .ofCheck cursor.position (convert value) := by
  cases look onward cursor with
  | @stays value ran =>
      rw [glance_stays ran]
      simp only [Glance.andThen]
      cases converted : convert value with
      | ok result => exact glance_stays (tryMap_succeeds.mpr ⟨value,ran,converted⟩)
      | error message =>
          have uncommitted : (Failure.clean (.rejected message) cursor.location).consumedIf
              (cursor.position < cursor.position) = .clean (.rejected message) cursor.location := by simp
          exact glance_declines (tryMap_fails.mpr (.inr ⟨value,cursor,message,ran,converted,uncommitted⟩)) rfl
  | declines ran unread =>
      rw [glance_declines ran unread]
      exact glance_declines (tryMap_fails.mpr (.inl ran)) unread
  | commits commits =>
      rw [glance_commits commits]
      refine glance_commits ⟨?_,?_⟩
      · intro value stop ran
        obtain ⟨_,inner,_⟩ := tryMap_succeeds.mp ran
        exact commits.onward inner
      · intro failed ran
        rcases tryMap_fails.mp ran with inner | ⟨_,_,_,inner,_,rfl⟩
        · exact commits.committed inner
        · simp [commits.onward inner]

theorem bind_stays {next : α → Parser β} {value : α} (ran : Succeeds parser cursor value cursor) :
    ((parser.bind next).run cursor).outcome = ((next value).run cursor).outcome := by
  rcases answers (next value) cursor with ⟨result,stop,later⟩ | ⟨failed,later⟩
  · exact (bind_succeeds.mpr ⟨value,cursor,ran,later⟩).trans later.symm
  · have uncommitted : failed.consumedIf (cursor.position < cursor.position) = failed := by simp
    exact (bind_fails.mpr (.inr ⟨value,cursor,failed,ran,later,uncommitted⟩)).trans later.symm

theorem bind_glance {next : α → Parser β} (onward : Onward parser) (later : ∀ value, Onward (next value)) :
    glance (parser.bind next) cursor = (glance parser cursor).andThen fun value => glance (next value) cursor := by
  cases look onward cursor with
  | stays ran =>
      rw [glance_stays ran]
      exact glance_congr (bind_stays ran)
  | declines ran unread =>
      rw [glance_declines ran unread]
      exact glance_declines (bind_fails.mpr (.inl ran)) unread
  | commits commits =>
      rw [glance_commits commits]
      refine glance_commits ⟨?_,?_⟩
      · intro _ _ ended
        obtain ⟨_,_,before,after⟩ := bind_succeeds.mp ended
        exact further_ahead (commits.onward before) ((later _).success after)
      · intro _ ended
        rcases bind_fails.mp ended with before | ⟨_,_,_,before,_,rfl⟩
        · exact commits.committed before
        · simp [commits.onward before]

theorem mapReporting_glance (f : α → β × List Event) (onward : Onward parser) :
    glance (parser.mapReporting f) cursor = (glance parser cursor).map fun value => (f value).1 :=
  (glance_congr (mapReporting_agrees f parser cursor)).trans (map_glance _ onward)

theorem pair_glance (before : Onward first) (after : Onward second) :
    glance (first.pair second) cursor =
      (glance first cursor).andThen fun value => (glance second cursor).map fun later => (value,later) := by
  rw [glance_congr (pair_agrees first second cursor),bind_glance before fun value => map_onward _ after]
  simp only [map_glance _ after]

theorem between_glance {opening : Parser α} {content : Parser β} {closing : Parser γ} (opened : Onward opening)
    (filled : Onward content) (closed : Onward closing) :
    glance (between opening content closing) cursor = (glance opening cursor).andThen fun _ =>
      (glance content cursor).andThen fun value => (glance closing cursor).map fun _ => value := by
  rw [glance_congr (between_agrees opening content closing cursor),
    map_glance _ (pair_onward (pair_onward opened filled) closed),
    pair_glance (pair_onward opened filled) closed,pair_glance opened filled]
  cases glance opening cursor with
  | stays mark =>
      cases glance content cursor with
      | stays value => cases glance closing cursor <;> rfl
      | declines cause offset => rfl
      | commits => rfl
  | declines cause offset => rfl
  | commits => rfl

theorem orElse_glance {other : Parser α} (onward : Onward parser) :
    glance (parser.orElse other) cursor = (glance parser cursor).orElse (glance other cursor) := by
  cases look onward cursor with
  | stays ran =>
      rw [glance_stays ran]
      exact glance_stays (orElse_succeeds.mpr (.inl ran))
  | declines ran unread =>
      rw [glance_declines ran unread]
      exact glance_congr (declines_orElse.mp ⟨_,ran,unread⟩ other)
  | commits commits =>
      rw [glance_commits commits]
      refine glance_commits ⟨?_,?_⟩
      · intro _ _ ended
        rcases orElse_succeeds.mp ended with ran | ⟨declined,_⟩
        · exact commits.onward ran
        · exact absurd declined (commits_not_declines commits)
      · intro _ ended
        rcases orElse_fails.mp ended with ⟨_,committed⟩ | ⟨declined,_⟩
        · exact committed
        · exact absurd declined (commits_not_declines commits)

theorem recognize_glance (onward : Onward parser) :
    glance parser.recognize cursor = (glance parser cursor).map fun _ => "" := by
  cases look onward cursor with
  | stays ran =>
      rw [glance_stays ran]
      exact glance_stays (recognize_succeeds.mpr ⟨⟨_,ran⟩,reads_textUpTo (reads_refl cursor)⟩)
  | declines ran unread =>
      rw [glance_declines ran unread]
      exact glance_declines (recognize_fails.mpr ran) unread
  | commits commits =>
      rw [glance_commits commits]
      refine glance_commits ⟨?_,fun failed => commits.committed (recognize_fails.mp failed)⟩
      intro _ _ ended
      obtain ⟨⟨_,ran⟩,_⟩ := recognize_succeeds.mp ended
      exact commits.onward ran

end Combined

section Loops

variable {parser item : Parser α} {separator : Parser β} {start cursor stop : Cursor} {source : String}
  {values : List α} {failed : Failure}

theorem repeatBroken_committed (further : start.position < cursor.position)
    (broken : RepeatBroken parser start cursor failed) : failed.consumed = true := by
  rcases broken with ⟨_,committed⟩ | ⟨_,rfl⟩
  · exact committed
  · simp [stuck,further]

theorem separatedBroken_committed (onward : Onward separator) (further : start.position < cursor.position)
    (broken : SeparatedBroken item separator start cursor failed) : failed.consumed = true := by
  rcases broken with ⟨_,committed⟩ | ⟨_,_,_,ran,_,rfl⟩ | ⟨_,rfl⟩
  · exact committed
  · simp [further_ahead further (onward.success ran)]
  · simp [stuck,further]

theorem repeatBroken_stays {value : α} (ran : Succeeds parser cursor value cursor) :
    RepeatBroken parser cursor cursor (.clean .noProgress cursor.location) :=
  .inr ⟨⟨value,cursor,ran,Nat.lt_irrefl _⟩,by simp [stuck]⟩

theorem many_glance (reached : Reached source cursor) (onward : Onward parser) :
    glance parser.many cursor = (glance parser cursor).loop cursor.position [] := by
  cases look onward cursor with
  | stays ran =>
      rw [glance_stays ran]
      exact glance_declines (many_fails.mpr ⟨[],cursor,.nil,repeatBroken_stays ran⟩) rfl
  | declines ran unread =>
      rw [glance_declines ran unread]
      exact glance_stays (many_succeeds.mpr ⟨.nil,⟨_,ran,unread⟩⟩)
  | commits commits =>
      rw [glance_commits commits]
      refine glance_commits ⟨?_,?_⟩
      · intro _ _ ended
        obtain ⟨chain,declined⟩ := many_succeeds.mp ended
        cases chain with
        | nil => exact absurd declined (commits_not_declines commits)
        | cons goes _ others =>
            exact further_ahead (commits.onward goes) (chain_ahead onward.success others)
      · intro _ ended
        obtain ⟨_,_,chain,broken⟩ := many_fails.mp ended
        cases chain with
        | nil =>
            rcases broken with ⟨_,committed⟩ | ⟨⟨_,_,ran,same⟩,_⟩
            · exact committed
            · exact absurd (further_less reached (onward.success ran) (commits.onward ran)) same
        | cons goes _ others =>
            refine repeatBroken_committed ?_ broken
            exact further_ahead (commits.onward goes) (chain_ahead onward.success others)

theorem many1_glance (onward : Onward parser) :
    glance parser.many1 cursor = (glance parser cursor).andThen fun _ => .declines .noProgress cursor.position := by
  cases look onward cursor with
  | stays ran =>
      rw [glance_stays ran]
      exact glance_declines (many1_fails.mpr (.inr ⟨_,_,ran,[],cursor,.nil,repeatBroken_stays ran⟩)) rfl
  | declines ran unread =>
      rw [glance_declines ran unread]
      exact glance_declines (many1_fails.mpr (.inl ran)) unread
  | commits commits =>
      rw [glance_commits commits]
      refine glance_commits ⟨?_,?_⟩
      · intro _ _ ended
        obtain ⟨_,_,_,ran,chain,_⟩ := many1_succeeds.mp ended
        exact further_ahead (commits.onward ran) (chain_ahead onward.success chain)
      · intro _ ended
        rcases many1_fails.mp ended with ran | ⟨_,_,ran,_,_,chain,broken⟩
        · exact commits.committed ran
        · refine repeatBroken_committed ?_ broken
          exact further_ahead (commits.onward ran) (chain_ahead onward.success chain)

theorem separatedBroken_stays {mark : β} {value : α} (ran : Succeeds separator cursor mark cursor)
    (found : Succeeds item cursor value cursor) :
    SeparatedBroken item separator cursor cursor (.clean .noProgress cursor.location) :=
  .inr (.inr ⟨⟨value,cursor,⟨mark,cursor,ran,found⟩,Nat.lt_irrefl _⟩,by simp [stuck]⟩)

theorem separatedBy_commits (reached : Reached source cursor) (forth : Onward item) (onward : Onward separator)
    {value : α} (ran : Succeeds item cursor value cursor) (commits : Commits separator cursor) :
    Commits (item.separatedBy separator) cursor where
  onward := by
    intro _ _ ended
    obtain ⟨_,_,_,found,chain,declined,_⟩ := separatedBy_succeeds.mp ended
    obtain ⟨rfl,rfl⟩ := succeeds_unique ran found
    cases chain with
    | nil => exact absurd declined (commits_not_declines commits)
    | cons goes less others =>
        have further := less_further (round_ahead forth onward goes) less
        exact further_ahead further (chain_ahead (round_ahead forth onward) others)
  committed := by
    intro _ ended
    rcases separatedBy_fails.mp ended with missing | ⟨_,_,found,_,_,chain,broken⟩
    · exact absurd missing (succeeds_not_fails ran)
    · obtain ⟨rfl,rfl⟩ := succeeds_unique ran found
      cases chain with
      | nil =>
          rcases broken with ⟨_,committed⟩ | ⟨_,_,_,mark,_,rfl⟩ | ⟨⟨_,_,⟨_,_,mark,item⟩,same⟩,_⟩
          · exact committed
          · simp [commits.onward mark]
          · have further := further_ahead (commits.onward mark) (forth.success item)
            exact absurd (further_less reached (ahead_trans (onward.success mark) (forth.success item)) further) same
      | cons goes less others =>
          have further := less_further (round_ahead forth onward goes) less
          have through := chain_ahead (round_ahead forth onward) others
          exact separatedBroken_committed onward (further_ahead further through) broken

theorem separatedBy_glance (reached : Reached source cursor) (forth : Onward item) (onward : Onward separator) :
    glance (item.separatedBy separator) cursor =
      (glance item cursor).andThen fun value => (glance separator cursor).loop cursor.position [value] := by
  cases look forth cursor with
  | stays ran =>
      rw [glance_stays ran]
      simp only [Glance.andThen]
      cases look onward cursor with
      | stays mark =>
          rw [glance_stays mark]
          have broken := separatedBroken_stays mark ran
          exact glance_declines (separatedBy_fails.mpr (.inr ⟨_,_,ran,[],cursor,.nil,broken⟩)) rfl
      | declines mark unread =>
          rw [glance_declines mark unread]
          exact glance_stays (separatedBy_succeeds.mpr ⟨_,_,[],ran,.nil,⟨_,mark,unread⟩,rfl⟩)
      | commits commits =>
          rw [glance_commits commits]
          exact glance_commits (separatedBy_commits reached forth onward ran commits)
  | declines ran unread =>
      rw [glance_declines ran unread]
      exact glance_declines (separatedBy_fails.mpr (.inl ran)) unread
  | commits commits =>
      rw [glance_commits commits]
      refine glance_commits ⟨?_,?_⟩
      · intro _ _ ended
        obtain ⟨_,_,_,ran,chain,_⟩ := separatedBy_succeeds.mp ended
        exact further_ahead (commits.onward ran) (chain_ahead (round_ahead forth onward) chain)
      · intro _ ended
        rcases separatedBy_fails.mp ended with ran | ⟨_,_,ran,_,_,chain,broken⟩
        · exact commits.committed ran
        · have through := chain_ahead (round_ahead forth onward) chain
          exact separatedBroken_committed onward (further_ahead (commits.onward ran) through) broken

end Loops

-- Sight of the same next character at the same offset; nothing else of the two sources need be the same.
structure SameSight (one two : Cursor) : Prop where
  offset : one.position = two.position
  next : one.peek? = two.peek?

theorem composed_glance {allowed : Allowance} {parser : Parser α}
    (plain : allowed.attempt = false ∧ allowed.optional = false ∧ allowed.span = false)
    (composed : Composed allowed parser) {source other : String} {one two : Cursor} (here : Reached source one)
    (there : Reached other two) (sight : SameSight one two) : glance parser one = glance parser two := by
  induction composed with
  | satisfy test expected => rw [satisfy_glance,satisfy_glance,sight.next,sight.offset]
  | eof => rw [eof_glance,eof_glance,sight.next,sight.offset]
  | pure value => rw [pure_glance,pure_glance]
  | fail message => rw [fail_glance,fail_glance,sight.offset]
  | map f part inner => rw [map_glance f (composed_onward part),map_glance f (composed_onward part),inner]
  | mapReporting f part inner =>
      rw [mapReporting_glance f (composed_onward part),mapReporting_glance f (composed_onward part),inner]
  | tryMap convert _ part inner =>
      rw [tryMap_glance convert (composed_onward part),tryMap_glance convert (composed_onward part),inner,sight.offset]
  | bind part chosen inner later =>
      have onward := fun value => composed_onward (chosen value)
      rw [bind_glance (composed_onward part) onward,bind_glance (composed_onward part) onward,inner]
      simp only [later]
  | pair first second before after =>
      have forth := composed_onward first
      have onward := composed_onward second
      rw [pair_glance forth onward,pair_glance forth onward,before,after]
  | between opening content closing opened filled closed =>
      have forth := composed_onward opening
      have through := composed_onward content
      have onward := composed_onward closing
      rw [between_glance forth through onward,between_glance forth through onward,opened,filled,closed]
  | orElse first _ inner instead =>
      rw [orElse_glance (composed_onward first),orElse_glance (composed_onward first),inner,instead]
  | attempt rewound => exact absurd (rewound.symm.trans plain.1) (by decide)
  | optional recovers => exact absurd (recovers.symm.trans plain.2.1) (by decide)
  | many part inner =>
      rw [many_glance here (composed_onward part),many_glance there (composed_onward part),inner,sight.offset]
  | many1 part inner => rw [many1_glance (composed_onward part),many1_glance (composed_onward part),inner,sight.offset]
  | separatedBy item separator within between =>
      rw [separatedBy_glance here (composed_onward item) (composed_onward separator),
        separatedBy_glance there (composed_onward item) (composed_onward separator),within,between,sight.offset]
  | withSpan spanned => exact absurd (spanned.symm.trans plain.2.2) (by decide)
  | recognize part inner =>
      rw [recognize_glance (composed_onward part),recognize_glance (composed_onward part),inner]

-- Whether and how a composed parser declines or stays in place is decided by the next character, and so is
-- whether a choice goes on to its second branch and whether a loop stops.
theorem composed_lookahead {allowed : Allowance} {parser : Parser α}
    (plain : allowed.attempt = false ∧ allowed.optional = false ∧ allowed.span = false)
    (composed : Composed allowed parser) {source other : String} {one two : Cursor} (here : Reached source one)
    (there : Reached other two) (offset : one.position = two.position) (next : one.peek? = two.peek?) :
    (∀ cause offset,
      (∃ failed, Fails parser one failed ∧ failed.consumed = false ∧ failed.fault.cause = cause ∧
        failed.position = offset) ↔
      ∃ failed, Fails parser two failed ∧ failed.consumed = false ∧ failed.fault.cause = cause ∧
        failed.position = offset) ∧
    (∀ value, (∃ stop, Succeeds parser one value stop ∧ stop.position = one.position) ↔
      ∃ stop, Succeeds parser two value stop ∧ stop.position = two.position) ∧
    ((∀ branch, ((parser.orElse branch).run one).outcome = (branch.run one).outcome) ↔
      ∀ branch, ((parser.orElse branch).run two).outcome = (branch.run two).outcome) ∧
    (∀ start, (repeatFrom parser start one).outcome = .success [] one ↔
      (repeatFrom parser start two).outcome = .success [] two) ∧
    ∀ (β : Type) (item : Parser β) start, (separatedFrom item parser start one).outcome = .success [] one ↔
      (separatedFrom item parser start two).outcome = .success [] two := by
  have shown := composed_glance plain composed here there ⟨offset,next⟩
  have declines : Declines parser one ↔ Declines parser two := by
    rw [declines_glance_exact,declines_glance_exact,shown]
  refine ⟨?_,?_,?_,?_,?_⟩
  · intro cause place
    rw [← glance_declines_exact,← glance_declines_exact,shown]
  · intro value
    rw [← glance_stays_exact,← glance_stays_exact,shown]
  · rw [← declines_orElse,← declines_orElse]
    exact declines
  · intro start
    rw [← declines_repeatFrom,← declines_repeatFrom]
    exact declines
  · intro β item start
    rw [← declines_separatedFrom,← declines_separatedFrom]
    exact declines

theorem same_character_lookahead :
    Reached "xé=1" ⟨"xé=1",1,['é','=','1']⟩ ∧ Reached "yéé" ⟨"yéé",1,['é','é']⟩ ∧
    Composed ⟨false,false,false,true⟩ ((char '=').pair anyChar).many ∧
    (∃ failed, Fails ((char '=').pair anyChar) ⟨"yéé",1,['é','é']⟩ failed ∧ failed.consumed = false ∧
      failed.fault.cause = .unexpected (Text.quotedChar '=') (Text.quotedChar 'é') ∧ failed.position = 1) ∧
    ∃ stop, Succeeds ((char '=').pair anyChar).many ⟨"yéé",1,['é','é']⟩ [] stop ∧ stop.position = 1 := by
  have here : Reached "xé=1" ⟨"xé=1",1,['é','=','1']⟩ := .advance (c := 'x') .start rfl
  have there : Reached "yéé" ⟨"yéé",1,['é','é']⟩ := .advance (c := 'y') .start rfl
  have round : Composed ⟨false,false,false,true⟩ ((char '=').pair anyChar) := .pair (.satisfy _ _) (.satisfy _ _)
  have declined : Fails ((char '=').pair anyChar) ⟨"xé=1",1,['é','=','1']⟩
      (.clean (.unexpected (Text.quotedChar '=') (Text.quotedChar 'é')) ⟨"xé=1",1⟩) := rfl
  have stopped := many_succeeds.mpr ⟨.nil,⟨_,declined,rfl⟩⟩
  refine ⟨here,there,.many round,?_,?_⟩
  · exact ((composed_lookahead ⟨rfl,rfl,rfl⟩ round here there rfl rfl).1 _ _).mp ⟨_,declined,rfl,rfl,rfl⟩
  · exact ((composed_lookahead ⟨rfl,rfl,rfl⟩ (.many round) here there rfl rfl).2.1 []).mp ⟨_,stopped,rfl⟩

end CommittedParsing.Parser
