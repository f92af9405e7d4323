import CommittedParsing.Proofs.Parser.Halting
import CommittedParsing.Proofs.Parser.Location
import CommittedParsing.Proofs.Parser.Shift

namespace CommittedParsing

structure Failure.Behind (later : Failure) (front : String) (failed : Failure) : Prop where
  cause : later.fault.cause = failed.fault.cause
  offset : later.position = front.utf8ByteSize + failed.position
  committed : front ≠ "" → later.consumed = true

namespace Parser

open Cursor

variable {α β γ : Type}

section Complete

variable {parser : Parser α} {text : String} {failed : Failure} {value : α}

theorem parseComplete_ok : (parser.parseComplete text).result = .ok value ↔
    ∃ stop, Succeeds (parser.left eof) (Cursor.start text) value stop := by
  rw [parseComplete_succeeds]
  simp only [left_succeeds,eof_succeeds]
  constructor
  · intro found
    obtain ⟨stop,ran,atEnd⟩ := found
    exact ⟨stop,stop,(),ran,rfl,atEnd⟩
  · intro found
    obtain ⟨_,middle,_,ran,rfl,atEnd⟩ := found
    exact ⟨middle,ran,atEnd⟩

theorem parseComplete_error : (parser.parseComplete text).result = .error failed ↔
    Fails (parser.left eof) (Cursor.start text) failed := by
  unfold left
  rw [map_fails,pair_fails]
  simp only [Fails,Succeeds,← parse_outcome,parseComplete]
  cases (parser.parse text).outcome with
  | failure first => simp
  | success first stop =>
      simp only [reduceCtorEq,false_or,Outcome.success.injEq]
      cases ended : (eof.run stop).outcome with
      | success _ last =>
          simp only [reduceCtorEq,false_iff]
          rintro ⟨_,_,_,⟨_,rfl⟩,left,_⟩
          rw [ended] at left
          cases left
      | failure leftover =>
          simp only [Except.error.injEq]
          constructor
          · intro same
            exact ⟨first,stop,leftover,⟨rfl,rfl⟩,ended,same⟩
          · rintro ⟨_,_,_,⟨_,rfl⟩,left,same⟩
            rw [ended] at left
            cases left
            exact same

theorem parseComplete_answers (parser : Parser α) (text : String) :
    (∃ value, (parser.parseComplete text).result = .ok value) ∨
      ∃ failed, (parser.parseComplete text).result = .error failed := by
  cases (parser.parseComplete text).result with
  | ok value => exact .inl ⟨value,rfl⟩
  | error failed => exact .inr ⟨failed,rfl⟩

theorem parseComplete_halts {language : TextLanguage α} {halting : FailureLanguage} (accepts : Accepts parser language)
    (halts : Halts parser halting) (ran : (parser.parseComplete text).result = .error failed) :
    ∃ front rest, text.toList = front ++ rest ∧ failed.position = Text.byteLength front ∧
      (halting front failed.fault.cause rest ∨ (∃ value, language value front rest) ∧ Tells failed.fault.cause rest) := by
  obtain ⟨front,place,passed,located,halted⟩ :=
    left_halts accepts halts eof_halts .start (parseComplete_error.mp ran)
  have offset : failed.position = Text.byteLength front := by
    have here := congrArg Location.offset located
    rw [location,passed.2.2,start_position,Nat.zero_add] at here
    exact here
  refine ⟨front,place.rest,passed.2.1,offset,?_⟩
  rcases halted with missed | ⟨value,read,_,rfl,spelled,rfl,tells⟩
  · exact .inl missed
  · rw [List.append_nil]
    exact .inr ⟨⟨value,spelled⟩,tells⟩

end Complete

section Skipping

variable {skip : Parser β} {parser : Parser α} {f : α → γ × List Event} {text front : String} {opened farther : Cursor}
  {begun : β} {result : γ} {failed : Failure}

-- What comes after the skipping decides the result, and what was skipped commits every failure.
theorem parseComplete_skipping_ok (skipped : Succeeds skip (start text) begun opened) :
    (((skip.right parser).mapReporting f).parseComplete text).result = .ok result ↔
      ∃ value stop, Succeeds (parser.left eof) opened value stop ∧ (f value).1 = result := by
  rw [parseComplete_ok]
  constructor
  · intro found
    obtain ⟨stop,ran⟩ := found
    obtain ⟨middle,ended,whole,atEnd⟩ := left_succeeds.mp ran
    obtain ⟨value,inner,made⟩ := mapReporting_succeeds.mp whole
    obtain ⟨_,_,before,ran⟩ := right_succeeds.mp inner
    obtain ⟨_,rfl⟩ := succeeds_unique skipped before
    exact ⟨value,stop,left_succeeds.mpr ⟨middle,ended,ran,atEnd⟩,made⟩
  · intro found
    obtain ⟨value,stop,ran,made⟩ := found
    obtain ⟨middle,ended,inner,atEnd⟩ := left_succeeds.mp ran
    have whole := mapReporting_succeeds.mpr ⟨value,right_succeeds.mpr ⟨opened,begun,skipped,inner⟩,made⟩
    exact ⟨stop,left_succeeds.mpr ⟨middle,ended,whole,atEnd⟩⟩

-- Progress is measured in two steps here, and in one step in the complete parse.
theorem advanced_twice (ahead : opened.Ahead farther) :
    (decide (opened.position < farther.position) || decide (0 < opened.position)) = decide (0 < farther.position) := by
  have onward := ahead_position ahead
  rw [Bool.eq_iff_iff,Bool.or_eq_true_iff,decide_eq_true_iff,decide_eq_true_iff,decide_eq_true_iff]
  omega

theorem parseComplete_skipping_error (onward : Onward parser) (skipped : Succeeds skip (start text) begun opened) :
    (((skip.right parser).mapReporting f).parseComplete text).result = .error failed ↔
      ∃ later, Fails (parser.left eof) opened later ∧ later.consumedIf (0 < opened.position) = failed := by
  rw [parseComplete_error]
  constructor
  · intro found
    rcases pair_fails.mp (map_fails.mp found) with refused | ⟨_,stop,leftover,whole,atEnd,rfl⟩
    · rcases pair_fails.mp (map_fails.mp (mapReporting_fails.mp refused)) with never | ⟨_,_,later,before,missed,rfl⟩
      · exact absurd never (succeeds_not_fails skipped)
      · obtain ⟨_,rfl⟩ := succeeds_unique skipped before
        exact ⟨later,map_fails.mpr (pair_fails.mpr (.inl missed)),rfl⟩
    · obtain ⟨value,inner,_⟩ := mapReporting_succeeds.mp whole
      obtain ⟨_,_,before,ran⟩ := right_succeeds.mp inner
      obtain ⟨_,rfl⟩ := succeeds_unique skipped before
      refine ⟨_,map_fails.mpr (pair_fails.mpr (.inr ⟨value,stop,leftover,ran,atEnd,rfl⟩)),?_⟩
      rw [Failure.consumedIf_consumedIf,advanced_twice (onward.success ran)]
      rfl
  · intro found
    obtain ⟨_,refused,rfl⟩ := found
    refine map_fails.mpr (pair_fails.mpr ?_)
    rcases pair_fails.mp (map_fails.mp refused) with missed | ⟨value,stop,leftover,ran,atEnd,rfl⟩
    · exact .inl (mapReporting_fails.mpr (map_fails.mpr (pair_fails.mpr (.inr ⟨begun,opened,_,skipped,missed,rfl⟩))))
    · have whole : Succeeds ((skip.right parser).mapReporting f) (start text) (f value).1 stop :=
        mapReporting_succeeds.mpr ⟨value,right_succeeds.mpr ⟨opened,begun,skipped,ran⟩,rfl⟩
      refine .inr ⟨(f value).1,stop,leftover,whole,atEnd,?_⟩
      rw [Failure.consumedIf_consumedIf,advanced_twice (onward.success ran)]
      rfl

theorem parseComplete_front {allowed : Allowance} (plain : allowed.span = false) (composed : Composed allowed parser)
    (skipped : Succeeds skip (start text) begun opened) {other : β}
    (also : Succeeds skip (start (front ++ text)) other farther) (shift : Shifted front farther opened) :
    (∀ result, (((skip.right parser).mapReporting f).parseComplete (front ++ text)).result = .ok result ↔
      (((skip.right parser).mapReporting f).parseComplete text).result = .ok result) ∧
    ∀ failed, (((skip.right parser).mapReporting f).parseComplete text).result = .error failed →
      ∃ later, (((skip.right parser).mapReporting f).parseComplete (front ++ text)).result = .error later ∧
        later.Behind front failed := by
  let whole := (skip.right parser).mapReporting f
  have onward := composed_onward composed
  have parallel : Parallel front Eq (parser.left eof) (parser.left eof) :=
    alike_parallel (composed_alike plain (composed_left composed .eof))
  have succeeds (result : γ) (ran : (whole.parseComplete text).result = .ok result) :
      (whole.parseComplete (front ++ text)).result = .ok result := by
    obtain ⟨_,_,near,rfl⟩ := (parseComplete_skipping_ok skipped).mp ran
    obtain ⟨_,_,far,rfl,_⟩ := parallel_succeeds parallel shift near
    exact (parseComplete_skipping_ok also).mpr ⟨_,_,far,rfl⟩
  have fails (failed : Failure) (ran : (whole.parseComplete text).result = .error failed) :
      ∃ later, (whole.parseComplete (front ++ text)).result = .error later ∧ later.Behind front failed := by
    obtain ⟨_,near,rfl⟩ := (parseComplete_skipping_error onward skipped).mp ran
    obtain ⟨first,far,moved⟩ := parallel_fails parallel shift near
    refine ⟨_,(parseComplete_skipping_error onward also).mpr ⟨first,far,rfl⟩,moved.cause,moved.offset,?_⟩
    intro some
    have width : front.utf8ByteSize ≠ 0 := mt String.utf8ByteSize_eq_zero_iff.mp some
    have placed := shift.position
    have advanced : 0 < farther.position := by omega
    simp [advanced]
  refine ⟨fun result => ⟨?_,succeeds result⟩,fails⟩
  intro ran
  rcases parseComplete_answers whole text with ⟨value,near⟩ | ⟨failed,near⟩
  · have same := (succeeds value near).symm.trans ran
    rw [near,same]
  · obtain ⟨later,refused,_⟩ := fails failed near
    rw [ran] at refused
    cases refused

end Skipping

end Parser

end CommittedParsing
