import CommittedParsing.Proofs.Parser.Composed
import CommittedParsing.Proofs.Parser.Repeat

namespace CommittedParsing.Parser

open Cursor

variable {α β γ : Type}

def LocatedAhead (cursor : Cursor) (failed : Failure) : Prop :=
  ∃ place, cursor.Ahead place ∧ failed.fault.location = place.location

structure Onward (parser : Parser α) : Prop where
  success : ∀ {cursor value stop}, Succeeds parser cursor value stop → cursor.Ahead stop
  failure : ∀ {cursor failed}, Fails parser cursor failed → LocatedAhead cursor failed

theorem located_here (cause : Cause) (cursor : Cursor) : LocatedAhead cursor (.clean cause cursor.location) :=
  ⟨cursor,ahead_refl cursor,rfl⟩

theorem located_later {cursor middle : Cursor} {failed : Failure} (ahead : cursor.Ahead middle)
    (located : LocatedAhead middle failed) : LocatedAhead cursor failed := by
  obtain ⟨place,further,same⟩ := located
  exact ⟨place,ahead_trans ahead further,same⟩

theorem located_consumedIf {cursor : Cursor} {failed : Failure} {advanced : Bool}
    (located : LocatedAhead cursor failed) : LocatedAhead cursor (failed.consumedIf advanced) := located

theorem located_rewind {cursor : Cursor} {failed : Failure} (located : LocatedAhead cursor failed) :
    LocatedAhead cursor failed.rewind := located

theorem satisfy_onward (test : Char → Bool) (expected : String) : Onward (satisfy test expected) where
  success := fun ran => ⟨_,(satisfy_succeeds.mp ran).1⟩
  failure := by
    intro cursor failed ran
    rcases satisfy_fails.mp ran with ⟨_,rfl⟩ | ⟨_,_,_,rfl⟩
    · exact located_here _ cursor
    · exact located_here _ cursor

theorem eof_onward : Onward eof where
  success := by
    intro cursor value stop ran
    obtain ⟨rfl,_⟩ := eof_succeeds.mp ran
    exact ahead_refl cursor
  failure := by
    intro cursor failed ran
    obtain ⟨_,_,rfl⟩ := eof_fails.mp ran
    exact located_here _ cursor

theorem pure_onward (value : α) : Onward (Parser.pure value) where
  success := by
    intro cursor result stop ran
    obtain ⟨_,rfl⟩ := pure_succeeds.mp ran
    exact ahead_refl cursor
  failure := fun ran => absurd ran pure_fails

theorem fail_onward (message : String) : Onward (Parser.fail message : Parser α) where
  success := fun ran => absurd ran fail_succeeds
  failure := by
    intro cursor failed ran
    obtain rfl := fail_fails.mp ran
    exact located_here _ cursor

section Combined

variable {parser : Parser α} {first : Parser α} {second : Parser β}

theorem map_onward (f : α → β) (onward : Onward parser) : Onward (parser.map f) where
  success := by
    intro cursor value stop ran
    obtain ⟨_,inner,_⟩ := map_succeeds.mp ran
    exact onward.success inner
  failure := fun ran => onward.failure (map_fails.mp ran)

theorem mapReporting_onward (f : α → β × List Event) (onward : Onward parser) : Onward (parser.mapReporting f) where
  success := by
    intro cursor value stop ran
    obtain ⟨_,inner,_⟩ := mapReporting_succeeds.mp ran
    exact onward.success inner
  failure := fun ran => onward.failure (mapReporting_fails.mp ran)

theorem tryMap_onward (convert : α → Except String β) (onward : Onward parser) : Onward (parser.tryMap convert) where
  success := by
    intro cursor value stop ran
    obtain ⟨_,inner,_⟩ := tryMap_succeeds.mp ran
    exact onward.success inner
  failure := by
    intro cursor failed ran
    rcases tryMap_fails.mp ran with inner | ⟨_,_,_,_,_,rfl⟩
    · exact onward.failure inner
    · exact located_consumedIf (located_here _ cursor)

theorem bind_onward {next : α → Parser β} (onward : Onward parser) (later : ∀ value, Onward (next value)) :
    Onward (parser.bind next) where
  success := by
    intro cursor value stop ran
    obtain ⟨inner,middle,before,after⟩ := bind_succeeds.mp ran
    exact ahead_trans (onward.success before) ((later inner).success after)
  failure := by
    intro cursor failed ran
    rcases bind_fails.mp ran with before | ⟨inner,middle,_,before,after,rfl⟩
    · exact onward.failure before
    · exact located_consumedIf (located_later (onward.success before) ((later inner).failure after))

theorem pair_onward (before : Onward first) (after : Onward second) : Onward (first.pair second) where
  success := by
    intro cursor values stop ran
    obtain ⟨middle,one,two⟩ := pair_succeeds.mp ran
    exact ahead_trans (before.success one) (after.success two)
  failure := by
    intro cursor failed ran
    rcases pair_fails.mp ran with one | ⟨_,middle,_,one,two,rfl⟩
    · exact before.failure one
    · exact located_consumedIf (located_later (before.success one) (after.failure two))

theorem between_onward {opening : Parser α} {content : Parser β} {closing : Parser γ} (opened : Onward opening)
    (filled : Onward content) (closed : Onward closing) : Onward (between opening content closing) where
  success := by
    intro cursor value stop ran
    obtain ⟨_,_,_,_,one,two,three⟩ := between_succeeds.mp ran
    exact ahead_trans (ahead_trans (opened.success one) (filled.success two)) (closed.success three)
  failure := by
    intro cursor failed ran
    rcases between_fails.mp ran with one | ⟨_,_,_,one,two,rfl⟩ | ⟨_,_,_,_,_,one,two,three,rfl⟩
    · exact opened.failure one
    · exact located_consumedIf (located_later (opened.success one) (filled.failure two))
    · have through := ahead_trans (opened.success one) (filled.success two)
      exact located_consumedIf (located_later through (closed.failure three))

theorem orElse_onward {other : Parser α} (onward : Onward parser) (instead : Onward other) :
    Onward (parser.orElse other) where
  success := by
    intro cursor value stop ran
    rcases orElse_succeeds.mp ran with one | ⟨_,two⟩
    · exact onward.success one
    · exact instead.success two
  failure := by
    intro cursor failed ran
    rcases orElse_fails.mp ran with ⟨one,_⟩ | ⟨_,two⟩
    · exact onward.failure one
    · exact instead.failure two

theorem attempt_onward (onward : Onward parser) : Onward parser.attempt where
  success := fun ran => onward.success (attempt_succeeds.mp ran)
  failure := by
    intro cursor failed ran
    obtain ⟨_,inner,rfl⟩ := attempt_fails.mp ran
    exact located_rewind (onward.failure inner)

theorem optional_onward (onward : Onward parser) : Onward parser.optional where
  success := by
    intro cursor value stop ran
    rcases optional_succeeds.mp ran with ⟨_,inner,_⟩ | ⟨_,_,rfl⟩
    · exact onward.success inner
    · exact ahead_refl cursor
  failure := fun ran => absurd ran optional_fails

theorem withSpan_onward (onward : Onward parser) : Onward parser.withSpan where
  success := fun ran => onward.success (withSpan_succeeds.mp ran).1
  failure := fun ran => onward.failure (withSpan_fails.mp ran)

theorem recognize_onward (onward : Onward parser) : Onward parser.recognize where
  success := by
    intro cursor text stop ran
    obtain ⟨⟨_,inner⟩,_⟩ := recognize_succeeds.mp ran
    exact onward.success inner
  failure := fun ran => onward.failure (recognize_fails.mp ran)

end Combined

section Loops

variable {parser item : Parser α} {separator : Parser β} {start cursor stop : Cursor} {values : List α}
  {failed : Failure}

theorem chain_ahead {step : Cursor → α → Cursor → Prop}
    (onward : ∀ {cursor value next}, step cursor value next → cursor.Ahead next)
    (chain : Chain step cursor values stop) : cursor.Ahead stop := by
  induction chain with
  | nil => exact ahead_refl _
  | cons goes _ _ ih => exact ahead_trans (onward goes) ih

theorem round_ahead (within : Onward item) (between : Onward separator) {value : α}
    (round : Round item separator cursor value stop) : cursor.Ahead stop := by
  obtain ⟨_,_,one,two⟩ := round
  exact ahead_trans (between.success one) (within.success two)

theorem repeatBroken_located (onward : Onward parser) (broken : RepeatBroken parser start cursor failed) :
    LocatedAhead cursor failed := by
  rcases broken with ⟨ran,_⟩ | ⟨_,rfl⟩
  · exact onward.failure ran
  · exact located_consumedIf (located_here _ cursor)

theorem separatedBroken_located (within : Onward item) (between : Onward separator)
    (broken : SeparatedBroken item separator start cursor failed) : LocatedAhead cursor failed := by
  rcases broken with ⟨ran,_⟩ | ⟨_,_,_,ran,missing,rfl⟩ | ⟨_,rfl⟩
  · exact between.failure ran
  · exact located_consumedIf (located_later (between.success ran) (within.failure missing))
  · exact located_consumedIf (located_here _ cursor)

theorem many_onward (onward : Onward parser) : Onward parser.many where
  success := fun ran => chain_ahead onward.success (many_succeeds.mp ran).1
  failure := by
    intro cursor failed ran
    obtain ⟨_,_,chain,broken⟩ := many_fails.mp ran
    exact located_later (chain_ahead onward.success chain) (repeatBroken_located onward broken)

theorem many1_onward (onward : Onward parser) : Onward parser.many1 where
  success := by
    intro cursor values stop ran
    obtain ⟨_,_,_,one,chain,_⟩ := many1_succeeds.mp ran
    exact ahead_trans (onward.success one) (chain_ahead onward.success chain)
  failure := by
    intro cursor failed ran
    rcases many1_fails.mp ran with one | ⟨_,_,one,_,_,chain,broken⟩
    · exact onward.failure one
    · have through := ahead_trans (onward.success one) (chain_ahead onward.success chain)
      exact located_later through (repeatBroken_located onward broken)

theorem separatedBy_onward (within : Onward item) (between : Onward separator) :
    Onward (item.separatedBy separator) where
  success := by
    intro cursor values stop ran
    obtain ⟨_,_,_,one,chain,_⟩ := separatedBy_succeeds.mp ran
    exact ahead_trans (within.success one) (chain_ahead (round_ahead within between) chain)
  failure := by
    intro cursor failed ran
    rcases separatedBy_fails.mp ran with one | ⟨_,_,one,_,_,chain,broken⟩
    · exact within.failure one
    · have through := ahead_trans (within.success one) (chain_ahead (round_ahead within between) chain)
      exact located_later through (separatedBroken_located within between broken)

end Loops

theorem composed_onward {allowed : Allowance} {parser : Parser α} (composed : Composed allowed parser) :
    Onward parser := by
  induction composed with
  | satisfy test expected => exact satisfy_onward test expected
  | eof => exact eof_onward
  | pure value => exact pure_onward value
  | fail message => exact fail_onward message
  | map f _ inner => exact map_onward f inner
  | mapReporting f _ inner => exact mapReporting_onward f inner
  | tryMap convert _ _ inner => exact tryMap_onward convert inner
  | bind _ _ inner later => exact bind_onward inner later
  | pair _ _ one two => exact pair_onward one two
  | between _ _ _ one two three => exact between_onward one two three
  | orElse _ _ one two => exact orElse_onward one two
  | attempt _ _ inner => exact attempt_onward inner
  | optional _ _ inner => exact optional_onward inner
  | many _ inner => exact many_onward inner
  | many1 _ inner => exact many1_onward inner
  | separatedBy _ _ one two => exact separatedBy_onward one two
  | withSpan _ _ inner => exact withSpan_onward inner
  | recognize _ inner => exact recognize_onward inner

-- A success reads some text up to a reached cursor, and that text is what `recognize` and `withSpan` give.
-- A failure is located on a boundary of the same source. Every slice that is taken on the way exists.
theorem composed_located {allowed : Allowance} {parser : Parser α} (composed : Composed allowed parser)
    {source : String} {cursor : Cursor} (reached : Reached source cursor) :
    (∀ value stop, Succeeds parser cursor value stop → ∃ read,
      Reached source stop ∧ stop.source = source ∧ cursor.rest = read ++ stop.rest ∧
      stop.position = cursor.position + Text.byteLength read ∧ (stop.atEnd = true ↔ stop.rest = []) ∧
      Succeeds parser.recognize cursor (String.ofList read) stop ∧
      Succeeds parser.withSpan cursor (value,⟨source,cursor.position,stop.position⟩) stop ∧
      Span.text? ⟨source,cursor.position,stop.position⟩ = some (String.ofList read) ∧
      Text.slice? stop.position source.utf8ByteSize source.toList = some stop.rest) ∧
    ∀ failed, Fails parser cursor failed →
      failed.fault.location.text = source ∧ cursor.position ≤ failed.position ∧
      failed.position ≤ source.utf8ByteSize ∧ Text.isBoundary failed.position source.toList = true ∧
      Text.slice? 0 failed.position source.toList = some failed.fault.location.before ∧
      failed.fault.location.lineStart ≤ failed.position := by
  have onward := composed_onward composed
  constructor
  · intro value stop ran
    obtain ⟨read,passed⟩ := onward.success ran
    have further := reads_reached reached passed
    obtain ⟨_,split⟩ := reached_split further
    have spanned : cursor.source = source := reads_source reached (reads_refl cursor)
    refine ⟨read,further,split.1,passed.2.1,passed.2.2,split_atEnd split,?_,?_,?_,reached_rest further⟩
    · exact recognize_succeeds.mpr ⟨⟨value,ran⟩,reads_textUpTo passed⟩
    · exact withSpan_succeeds.mpr ⟨ran,by rw [spanned]⟩
    · rw [Span.text?,reads_slice reached passed,Option.map_some]
  · intro failed ran
    obtain ⟨place,⟨read,passed⟩,same⟩ := onward.failure ran
    have further := reads_reached reached passed
    have here : failed.position = place.position := congrArg Location.offset same
    rw [same,here]
    refine ⟨reads_source reached passed,?_,reached_fits further,reached_boundary further,?_,?_⟩
    · rw [passed.2.2]
      exact Nat.le_add_right _ _
    · exact reached_before further
    · exact reached_lineStart further

theorem wide_pair_located :
    Reached "xé=1" ⟨"xé=1",1,['é','=','1']⟩ ∧ Composed .everything (anyChar.pair (char '=')) ∧
    Succeeds (anyChar.pair (char '=')) ⟨"xé=1",1,['é','=','1']⟩ ('é','=') ⟨"xé=1",4,['1']⟩ ∧
    (∃ read, ['é','=','1'] = read ++ ['1'] ∧ 4 = 1 + Text.byteLength read ∧
      Span.text? ⟨"xé=1",1,4⟩ = some (String.ofList read)) ∧
    ∃ failed, Fails (anyChar.pair (char ';')) ⟨"xé=1",1,['é','=','1']⟩ failed ∧
      1 ≤ failed.position ∧ failed.position ≤ 5 ∧ Text.isBoundary failed.position ['x','é','=','1'] = true := by
  have reached : Reached "xé=1" ⟨"xé=1",1,['é','=','1']⟩ := .advance (c := 'x') .start rfl
  have composed : ∀ c, Composed .everything (anyChar.pair (char c)) := fun c => .pair (.satisfy _ _) (.satisfy _ _)
  have ran : Succeeds (anyChar.pair (char '=')) ⟨"xé=1",1,['é','=','1']⟩ ('é','=') ⟨"xé=1",4,['1']⟩ := rfl
  refine ⟨reached,composed '=',ran,?_,?_⟩
  · obtain ⟨read,_,_,passed,width,_,_,_,spanned,_⟩ := (composed_located (composed '=') reached).1 _ _ ran
    exact ⟨read,passed,width,spanned⟩
  · refine ⟨_,rfl,?_⟩
    obtain ⟨_,further,fits,boundary,_⟩ := (composed_located (composed ';') reached).2 _ rfl
    exact ⟨further,fits,boundary⟩

end CommittedParsing.Parser
