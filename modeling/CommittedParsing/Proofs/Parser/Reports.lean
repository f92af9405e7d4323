import CommittedParsing.Parser.Entry
import CommittedParsing.Proofs.Parser.Repeat
import CommittedParsing.Proofs.Parser.Rounds

namespace CommittedParsing

namespace Reply

variable {α β : Type}

theorem andThen_quiet {reply : Reply α} {next : α → Cursor → Reply β} (quiet : reply.events = [])
    (later : ∀ value stop, (next value stop).events = []) : (reply.andThen next).events = [] := by
  obtain ⟨outcome,events⟩ := reply
  cases outcome with
  | failure failed => exact quiet
  | success value stop => rw [andThen_success,show events = [] from quiet,later value stop,List.nil_append]

theorem consumedIf_events (reply : Reply α) (advanced : Bool) : (reply.consumedIf advanced).events = reply.events := by
  obtain ⟨outcome,events⟩ := reply
  cases outcome <;> rfl

end Reply

namespace Parser

variable {α β γ : Type}

def Quiet (parser : Parser α) : Prop := ∀ cursor, (parser.run cursor).events = []

section Quiet

variable {parser first : Parser α} {second : Parser β} {cursor stop : Cursor} {value : α} {failed : Failure}

theorem quiet_success (quiet : Quiet parser) (ran : Succeeds parser cursor value stop) :
    parser.run cursor = ⟨.success value stop,[]⟩ := by
  have nothing := quiet cursor
  unfold Succeeds at ran
  cases whole : parser.run cursor with
  | mk outcome events =>
      rw [whole] at ran nothing
      cases ran
      cases nothing
      rfl

theorem quiet_failure (quiet : Quiet parser) (ran : Fails parser cursor failed) :
    parser.run cursor = ⟨.failure failed,[]⟩ := by
  have nothing := quiet cursor
  unfold Fails at ran
  cases whole : parser.run cursor with
  | mk outcome events =>
      rw [whole] at ran nothing
      cases ran
      cases nothing
      rfl

theorem satisfy_quiet (test : Char → Bool) (expected : String) : Quiet (satisfy test expected) := by
  intro cursor
  simp only [satisfy]
  cases cursor.advance with
  | error fault => rfl
  | ok step =>
      obtain ⟨c,next⟩ := step
      cases passes : test c with
      | true => simp only [passes,if_true,Reply.success_events]
      | false => simp only [passes,Bool.false_eq_true,if_false,Reply.failure_events]

theorem map_quiet (f : α → β) (quiet : Quiet parser) : Quiet (parser.map f) := by
  intro cursor
  exact (Reply.map_events f (parser.run cursor)).trans (quiet cursor)

theorem pair_quiet (before : Quiet first) (after : Quiet second) : Quiet (first.pair second) := by
  intro cursor
  apply Reply.andThen_quiet (before cursor)
  intro value middle
  rw [Reply.map_events,Reply.consumedIf_events]
  exact after middle

theorem left_quiet (before : Quiet first) (after : Quiet second) : Quiet (first.left second) :=
  map_quiet Prod.fst (pair_quiet before after)

theorem right_quiet (before : Quiet first) (after : Quiet second) : Quiet (first.right second) :=
  map_quiet Prod.snd (pair_quiet before after)

theorem between_quiet {opening : Parser α} {content : Parser β} {closing : Parser γ} (opened : Quiet opening)
    (filled : Quiet content) (closed : Quiet closing) : Quiet (between opening content closing) := by
  intro start
  apply Reply.andThen_quiet (opened start)
  intro mark inside
  apply Reply.andThen_quiet
  · rw [Reply.consumedIf_events]
    exact filled inside
  · intro value last
    rw [Reply.map_events,Reply.consumedIf_events]
    exact closed last

theorem recognize_quiet (quiet : Quiet parser) : Quiet parser.recognize := by
  intro cursor
  apply Reply.andThen_quiet (quiet cursor)
  intro value stop
  rfl

theorem repeatFrom_quiet (quiet : Quiet parser) (start cursor : Cursor) :
    (repeatFrom parser start cursor).events = [] := by
  induction size : cursor.remaining using Nat.strongRecOn generalizing cursor with
  | ind n ih =>
      rcases answers parser cursor with ⟨value,next,ran⟩ | ⟨failed,ran⟩
      · by_cases less : next.remaining < cursor.remaining
        · rw [repeatFrom_goes (quiet_success quiet ran) less,ih _ (size ▸ less) next rfl]
          rfl
        · rw [repeatFrom_sticks (quiet_success quiet ran) less]
      · rw [repeatFrom_ends (quiet_failure quiet ran)]

theorem many_quiet (quiet : Quiet parser) : Quiet parser.many := fun cursor => repeatFrom_quiet quiet cursor cursor

theorem many1_quiet (quiet : Quiet parser) : Quiet parser.many1 := by
  intro start
  apply Reply.andThen_quiet (quiet start)
  intro value next
  rw [Reply.map_events]
  exact repeatFrom_quiet quiet start next

end Quiet

section Reports

variable {parser : Parser α} {silent : Parser β} {f : α → γ × List Event} {cursor middle stop : Cursor} {value : α}
  {mark : β} {failed : Failure} {events : List Event}

theorem mapReporting_told (told : parser.run cursor = ⟨.success value stop,events⟩) :
    (parser.mapReporting f).run cursor = ⟨.success (f value).1 stop,events ++ (f value).2⟩ := by
  simp only [mapReporting,told,Reply.andThen_success]

theorem mapReporting_untold (told : parser.run cursor = ⟨.failure failed,events⟩) :
    (parser.mapReporting f).run cursor = ⟨.failure failed,events⟩ := by
  simp only [mapReporting,told,Reply.andThen_failure]

theorem left_told (told : parser.run cursor = ⟨.success value middle,events⟩)
    (behind : silent.run middle = ⟨.success mark stop,[]⟩) :
    (parser.left silent).run cursor = ⟨.success value stop,events⟩ := by
  simp only [left,map,pair,told,behind,Reply.andThen_success,Reply.consumedIf_success,Reply.map_success,List.append_nil]

theorem left_untold (told : parser.run cursor = ⟨.failure failed,events⟩) :
    (parser.left silent).run cursor = ⟨.failure failed,events⟩ := by
  simp only [left,map,pair,told,Reply.andThen_failure,Reply.map_failure]

theorem right_silent (parser : Parser α) (before : silent.run cursor = ⟨.success mark middle,[]⟩) :
    (silent.right parser).run cursor = (parser.run middle).consumedIf (cursor.position < middle.position) := by
  cases told : parser.run middle with
  | mk outcome events =>
      cases outcome with
      | success value stop => exact round_goes before told
      | failure failed => exact round_misses before told

end Reports

section Loops

variable {parser : Parser α} {make : β → α} {report : β → List Event} {step : Cursor → β → Cursor → Prop}
  {start cursor last : Cursor} {entries : List β} {failed : Failure}

-- The reports of the rounds follow one another up to where the loop ends, whichever way it ends there.
theorem repeatFrom_reports (told : ∀ cursor entry next, step cursor entry next →
      parser.run cursor = ⟨.success (make entry) next,report entry⟩)
    (chain : Chain step cursor entries last) (ended : parser.run last = ⟨.failure failed,[]⟩) :
    repeatFrom parser start cursor =
      ⟨if failed.consumed then .failure failed else .success (entries.map make) last,entries.flatMap report⟩ := by
  induction chain with
  | nil => exact repeatFrom_ends ended
  | cons goes less _ ih =>
      rw [repeatFrom_goes (told _ _ _ goes) less,ih ended]
      cases failed.consumed <;> rfl

theorem many1_reports (told : ∀ cursor entry next, step cursor entry next →
      parser.run cursor = ⟨.success (make entry) next,report entry⟩)
    (chain : Chain step cursor entries last) (ended : parser.run last = ⟨.failure failed,[]⟩) :
    parser.many1.run cursor =
      ⟨if failed.consumed ∨ entries = [] then .failure failed else .success (entries.map make) last,
        entries.flatMap report⟩ := by
  cases chain with
  | nil => simp only [many1,ended,Reply.andThen_failure,or_true,if_true,List.flatMap_nil]
  | cons goes _ chain =>
      simp only [many1,told _ _ _ goes,Reply.andThen_success,repeatFrom_reports told chain ended]
      cases failed.consumed <;> rfl

end Loops

section Complete

variable {parser : Parser α} {text : String} {stop : Cursor} {value : α} {failed : Failure} {events : List Event}

theorem parseComplete_refused (told : parser.run (Cursor.start text) = ⟨.failure failed,events⟩) :
    (parser.parseComplete text).events = .started text.utf8ByteSize :: events ++ [.failed failed] := by
  simp only [parseComplete,parse,told]

theorem parseComplete_stopped (reached : Cursor.Reached text stop)
    (told : parser.run (Cursor.start text) = ⟨.success value stop,events⟩) :
    (parser.parseComplete text).events = .started text.utf8ByteSize :: events ++
      if stop.position < text.utf8ByteSize then [.leftover stop.position] else [] := by
  have unended := Cursor.reached_unended reached
  cases ahead : stop.peek? with
  | none =>
      have whole : ¬ stop.position < text.utf8ByteSize := fun before => unended.mp before ahead
      simp only [parseComplete,parse,told,eof,ahead,Reply.success_outcome,if_neg whole,List.append_nil]
  | some c =>
      have before : stop.position < text.utf8ByteSize := unended.mpr (by simp [ahead])
      simp only [parseComplete,parse,told,eof,ahead,Reply.failure_outcome,if_pos before]

end Complete

end Parser

end CommittedParsing
