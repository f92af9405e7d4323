import CommittedParsing.Proofs.Parser.Commitment
import CommittedParsing.Proofs.Parser.Derived

namespace CommittedParsing

namespace Failure

def movedTo (failed : Failure) (cursor : Cursor) : Failure := ⟨⟨failed.fault.cause,cursor.location⟩,failed.consumed⟩

-- The failure is not the rejection of a value whose text was read first, which is located before that text.
def Immediate (failed : Failure) : Prop := failed.consumed = true → ∀ message, failed.fault.cause ≠ .rejected message

end Failure

namespace Parser

open Cursor

variable {α β γ : Type}

-- Two cursors before the same text, behind which the same character comes next or both sources end.
structure Twins (one two stop last : Cursor) : Prop where
  here : Reached one.source one
  there : Reached two.source two
  offset : one.position = two.position
  reads : ∃ read, one.Reads read stop ∧ two.Reads read last
  next : stop.peek? = last.peek?

structure Determined (parser : Parser α) : Prop where
  success : ∀ {one two stop last value}, Twins one two stop last → Succeeds parser one value stop →
    Succeeds parser two value last
  failure : ∀ {one two stop last failed}, Twins one two stop last → Fails parser one failed →
    failed.fault.location = stop.location → failed.Immediate → Fails parser two (failed.movedTo last)

section Twins

variable {one two stop last middle half : Cursor} {failed : Failure}

theorem twins_ahead (twins : Twins one two stop last) : one.Ahead stop := by
  obtain ⟨read,passed,_⟩ := twins.reads
  exact ⟨read,passed⟩

theorem twins_further (twins : Twins one two stop last) :
    one.position < stop.position ↔ two.position < last.position := by
  obtain ⟨read,passed,further⟩ := twins.reads
  rw [reads_further passed,reads_further further]

theorem twins_less (twins : Twins one two stop last) :
    stop.remaining < one.remaining ↔ last.remaining < two.remaining := by
  obtain ⟨read,passed,further⟩ := twins.reads
  rw [reads_remaining twins.here passed,reads_remaining twins.there further]

theorem twins_textUpTo (twins : Twins one two stop last) : one.textUpTo stop = two.textUpTo last := by
  obtain ⟨read,passed,further⟩ := twins.reads
  rw [reads_textUpTo passed,reads_textUpTo further]

theorem twins_between (twins : Twins one two stop last) (forth : one.Ahead middle) (onward : middle.Ahead stop) :
    ∃ half, Twins one two middle half ∧ Twins middle half stop last := by
  obtain ⟨whole,passed,further⟩ := twins.reads
  obtain ⟨front,first⟩ := forth
  obtain ⟨back,second⟩ := onward
  obtain ⟨rfl,_⟩ := reads_unique passed (reads_trans first second) rfl
  obtain ⟨half,before,after⟩ := reads_cut further
  have next : middle.peek? = half.peek? := by
    have seen := twins.next
    rw [peek?,peek?] at seen ⊢
    rw [second.2.1,after.2.1,List.head?_append,List.head?_append,seen]
  have here : Reached middle.source middle := by
    rw [first.1]
    exact reads_reached twins.here first
  have there : Reached half.source half := by
    rw [before.1]
    exact reads_reached twins.there before
  have offset : middle.position = half.position := by rw [first.2.2,before.2.2,twins.offset]
  exact ⟨half,⟨twins.here,twins.there,twins.offset,⟨front,first,before⟩,next⟩,here,there,offset,⟨back,second,after⟩,
    twins.next⟩

theorem twins_same (twins : Twins one two one last) : last = two := by
  obtain ⟨read,passed,further⟩ := twins.reads
  obtain ⟨rfl,_⟩ := reads_unique passed (reads_refl one) rfl
  exact reads_nil.mp further

theorem twins_there (twins : Twins one two stop last) : Twins stop last stop last := by
  obtain ⟨half,_,second⟩ := twins_between twins (twins_ahead twins) (ahead_refl stop)
  have same := twins_same second
  rwa [← same] at second

theorem twins_here (twins : Twins one two stop last) : Twins one two one two := by
  obtain ⟨half,first,_⟩ := twins_between twins (ahead_refl one) (twins_ahead twins)
  rwa [twins_same first] at first

theorem twins_trans (first : Twins one two middle half) (second : Twins middle half stop last) :
    Twins one two stop last := by
  obtain ⟨front,passed,also⟩ := first.reads
  obtain ⟨back,further,too⟩ := second.reads
  exact ⟨first.here,first.there,first.offset,⟨front ++ back,reads_trans passed further,reads_trans also too⟩,second.next⟩

theorem twins_located (twins : Twins one two stop last) (forth : one.Ahead middle) (located : LocatedAhead middle failed)
    (placed : failed.fault.location = stop.location) : ∃ half, Twins one two middle half ∧ Twins middle half stop last := by
  obtain ⟨place,further,same⟩ := located
  obtain ⟨read,passed,_⟩ := twins.reads
  obtain ⟨more,through⟩ := ahead_trans forth further
  have offset : stop.position = place.position := congrArg Location.offset (placed.symm.trans same)
  obtain ⟨_,rfl⟩ := reads_unique passed through offset
  exact twins_between twins forth further

theorem twins_placed (twins : Twins one two stop last) (placed : failed.fault.location = stop.location)
    (here : failed.position = one.position) : stop = one ∧ last = two := by
  obtain ⟨read,passed,_⟩ := twins.reads
  have offset : stop.position = one.position := (congrArg Location.offset placed).symm.trans here
  obtain ⟨_,rfl⟩ := reads_unique passed (reads_refl one) offset
  exact ⟨rfl,twins_same twins⟩

theorem located_at (located : LocatedAhead one failed) (here : failed.position = one.position) :
    failed.fault.location = one.location := by
  obtain ⟨place,⟨read,passed⟩,same⟩ := located
  have offset : place.position = one.position := (congrArg Location.offset same).symm.trans here
  obtain ⟨_,rfl⟩ := reads_unique passed (reads_refl one) offset
  exact same

end Twins

section Failures

variable {failed : Failure} {advanced : Bool} {a b c d : Nat}

theorem movedTo_consumedIf (failed : Failure) (last : Cursor) (same : a < b ↔ c < d) :
    (failed.movedTo last).consumedIf (c < d) = (failed.consumedIf (a < b)).movedTo last := by
  rw [decide_eq_decide.mpr same]
  rfl

theorem immediate_earlier (immediate : (failed.consumedIf advanced).Immediate) : failed.Immediate := by
  intro committed
  refine immediate ?_
  rw [Failure.consumedIf_consumed,committed,Bool.true_or]

end Failures

section Combined

variable {parser first : Parser α} {second : Parser β} {checks : Bool} {one two : Cursor}

theorem satisfy_determined (test : Char → Bool) (expected : String) : Determined (satisfy test expected) where
  success := by
    intro one two stop last c twins ran
    obtain ⟨passed,accepted⟩ := satisfy_succeeds.mp ran
    obtain ⟨read,reads,further⟩ := twins.reads
    obtain ⟨rfl,_⟩ := reads_unique reads passed rfl
    exact satisfy_succeeds.mpr ⟨further,accepted⟩
  failure := by
    intro one two stop last failed twins ran placed _
    rcases satisfy_fails.mp ran with ⟨missing,rfl⟩ | ⟨c,ahead,refused,rfl⟩
    · obtain ⟨rfl,rfl⟩ := twins_placed twins placed rfl
      exact satisfy_fails.mpr (.inl ⟨twins.next.symm.trans missing,rfl⟩)
    · obtain ⟨rfl,rfl⟩ := twins_placed twins placed rfl
      exact satisfy_fails.mpr (.inr ⟨c,twins.next.symm.trans ahead,refused,rfl⟩)

theorem eof_determined : Determined eof where
  success := by
    intro one two stop last value twins ran
    obtain ⟨rfl,atEnd⟩ := eof_succeeds.mp ran
    exact eof_succeeds.mpr ⟨(twins_same twins).symm,(twins_here twins).next.symm.trans atEnd⟩
  failure := by
    intro one two stop last failed twins ran placed _
    obtain ⟨c,ahead,rfl⟩ := eof_fails.mp ran
    obtain ⟨rfl,rfl⟩ := twins_placed twins placed rfl
    exact eof_fails.mpr ⟨c,twins.next.symm.trans ahead,rfl⟩

theorem pure_determined (value : α) : Determined (Parser.pure value) where
  success := by
    intro one two stop last result twins ran
    obtain ⟨made,rfl⟩ := pure_succeeds.mp ran
    exact pure_succeeds.mpr ⟨made,(twins_same twins).symm⟩
  failure := fun _ ran => absurd ran pure_fails

theorem fail_determined (message : String) : Determined (Parser.fail message : Parser α) where
  success := fun _ ran => absurd ran fail_succeeds
  failure := by
    intro one two stop last failed twins ran placed _
    obtain rfl := fail_fails.mp ran
    obtain ⟨rfl,rfl⟩ := twins_placed twins placed rfl
    exact fail_fails.mpr (rfl)

theorem map_determined (f : α → β) (determined : Determined parser) : Determined (parser.map f) where
  success := by
    intro one two stop last value twins ran
    obtain ⟨inner,ran,made⟩ := map_succeeds.mp ran
    exact map_succeeds.mpr ⟨inner,determined.success twins ran,made⟩
  failure := fun twins ran placed immediate =>
    map_fails.mpr (determined.failure twins (map_fails.mp ran) placed immediate)

-- Where a check rejects, it must have rejected a value without text, since nothing else is said to be determined.
theorem tryMap_determined (convert : α → Except String β) (onward : Onward parser) (determined : Determined parser) :
    Determined (parser.tryMap convert) where
  success := by
    intro one two stop last value twins ran
    obtain ⟨inner,ran,made⟩ := tryMap_succeeds.mp ran
    exact tryMap_succeeds.mpr ⟨inner,determined.success twins ran,made⟩
  failure := by
    intro one two stop last failed twins ran placed immediate
    rcases tryMap_fails.mp ran with inner | ⟨value,middle,message,inner,refused,rfl⟩
    · exact tryMap_fails.mpr (.inl (determined.failure twins inner placed immediate))
    · obtain ⟨rfl,rfl⟩ := twins_placed twins placed rfl
      rcases ahead_cases (onward.success inner) with rfl | advanced
      · refine tryMap_fails.mpr (.inr ⟨value,last,message,determined.success twins inner,refused,?_⟩)
        exact movedTo_consumedIf (.clean (.rejected message) middle.location) last (twins_further twins)
      · exact absurd rfl (immediate (by simp [advanced]) message)

theorem bind_determined {next : α → Parser β} (forth : Onward parser) (onward : ∀ value, Onward (next value))
    (determined : Determined parser) (after : ∀ value, Determined (next value)) : Determined (parser.bind next) where
  success := by
    intro one two stop last value twins ran
    obtain ⟨inner,middle,before,ran⟩ := bind_succeeds.mp ran
    obtain ⟨half,left,right⟩ := twins_between twins (forth.success before) ((onward inner).success ran)
    exact bind_succeeds.mpr ⟨inner,half,determined.success left before,(after inner).success right ran⟩
  failure := by
    intro one two stop last failed twins ran placed immediate
    rcases bind_fails.mp ran with before | ⟨inner,middle,later,before,missed,rfl⟩
    · exact bind_fails.mpr (.inl (determined.failure twins before placed immediate))
    · obtain ⟨half,left,right⟩ := twins_located twins (forth.success before) ((onward inner).failure missed) placed
      have refused := (after inner).failure right missed placed (immediate_earlier immediate)
      have advanced := movedTo_consumedIf later last (twins_further left)
      exact bind_fails.mpr (.inr ⟨inner,half,_,determined.success left before,refused,advanced⟩)

theorem determined_agrees {other : Parser α} (agrees : Agrees parser other) (determined : Determined other) :
    Determined parser where
  success := by
    intro one two stop last value twins ran
    unfold Succeeds at ran ⊢
    rw [agrees] at ran ⊢
    exact determined.success twins ran
  failure := by
    intro one two stop last failed twins ran placed immediate
    unfold Fails at ran ⊢
    rw [agrees] at ran ⊢
    exact determined.failure twins ran placed immediate

theorem mapReporting_determined (f : α → β × List Event) (determined : Determined parser) :
    Determined (parser.mapReporting f) :=
  determined_agrees (mapReporting_agrees f parser) (map_determined _ determined)

theorem pair_determined (forth : Onward first) (onward : Onward second) (before : Determined first)
    (after : Determined second) : Determined (first.pair second) := by
  apply determined_agrees (pair_agrees first second)
  exact bind_determined forth (fun value => map_onward _ onward) before fun value => map_determined _ after

theorem between_determined {opening : Parser α} {content : Parser β} {closing : Parser γ} (forth : Onward opening)
    (through : Onward content) (onward : Onward closing) (opened : Determined opening) (filled : Determined content)
    (closed : Determined closing) : Determined (between opening content closing) := by
  apply determined_agrees (between_agrees opening content closing)
  apply map_determined
  exact pair_determined (pair_onward forth through) onward (pair_determined forth through opened filled) closed

theorem determined_declines (onward : Onward parser) (truthful : Truthful checks parser) (determined : Determined parser)
    (twins : Twins one two one two) (declined : Declines parser one) : Declines parser two := by
  obtain ⟨failed,ran,unread⟩ := declined
  have placed : failed.fault.location = one.location :=
    located_at (onward.failure ran) ((truthful ran).uncommitted unread)
  have immediate : failed.Immediate := fun committed => absurd (unread.symm.trans committed) (by decide)
  exact ⟨_,determined.failure twins ran placed immediate,unread⟩

theorem orElse_determined {other : Parser α} (onward : Onward parser) (truthful : Truthful checks parser)
    (determined : Determined parser) (instead : Determined other) : Determined (parser.orElse other) where
  success := by
    intro one two stop last value twins ran
    rcases orElse_succeeds.mp ran with inner | ⟨declined,inner⟩
    · exact orElse_succeeds.mpr (.inl (determined.success twins inner))
    · have declines := determined_declines onward truthful determined (twins_here twins) declined
      exact orElse_succeeds.mpr (.inr ⟨declines,instead.success twins inner⟩)
  failure := by
    intro one two stop last failed twins ran placed immediate
    rcases orElse_fails.mp ran with ⟨inner,committed⟩ | ⟨declined,inner⟩
    · exact orElse_fails.mpr (.inl ⟨determined.failure twins inner placed immediate,committed⟩)
    · have declines := determined_declines onward truthful determined (twins_here twins) declined
      exact orElse_fails.mpr (.inr ⟨declines,instead.failure twins inner placed immediate⟩)

theorem recognize_determined (determined : Determined parser) : Determined parser.recognize where
  success := by
    intro one two stop last text twins ran
    obtain ⟨⟨value,inner⟩,made⟩ := recognize_succeeds.mp ran
    exact recognize_succeeds.mpr ⟨⟨value,determined.success twins inner⟩,(twins_textUpTo twins).symm.trans made⟩
  failure := fun twins ran placed immediate =>
    recognize_fails.mpr (determined.failure twins (recognize_fails.mp ran) placed immediate)

end Combined

section Loops

variable {parser item : Parser α} {separator : Parser β} {checks : Bool} {start origin cursor other stop last : Cursor}
  {values : List α} {failed : Failure}

theorem chain_determined {step : Cursor → α → Cursor → Prop} (chain : Chain step cursor values stop)
    (onward : ∀ {cursor value next}, step cursor value next → cursor.Ahead next)
    (determined : ∀ {one two stop last value}, Twins one two stop last → step one value stop → step two value last)
    (twins : Twins cursor other stop last) : Chain step other values last := by
  induction chain generalizing other with
  | nil =>
      obtain rfl := twins_same twins
      exact .nil
  | cons goes less others ih =>
      obtain ⟨half,left,right⟩ := twins_between twins (onward goes) (chain_ahead onward others)
      exact .cons (determined left goes) ((twins_less left).mp less) (ih right)

theorem round_determined (forth : Onward item) (onward : Onward separator) (within : Determined item)
    (between : Determined separator) {value : α} (twins : Twins cursor other stop last)
    (round : Round item separator cursor value stop) : Round item separator other value last := by
  obtain ⟨mark,after,ran,found⟩ := round
  obtain ⟨half,left,right⟩ := twins_between twins (onward.success ran) (forth.success found)
  exact ⟨mark,half,between.success left ran,within.success right found⟩

theorem repeatBroken_determined (onward : Onward parser) (determined : Determined parser)
    (begun : Twins start origin cursor other) (twins : Twins cursor other stop last)
    (broken : RepeatBroken parser start cursor failed) (placed : failed.fault.location = stop.location)
    (immediate : failed.Immediate) : RepeatBroken parser origin other (failed.movedTo last) := by
  rcases broken with ⟨ran,committed⟩ | ⟨⟨value,next,ran,same⟩,rfl⟩
  · exact .inl ⟨determined.failure twins ran placed immediate,committed⟩
  · obtain ⟨rfl,rfl⟩ := twins_placed twins placed rfl
    obtain rfl := ahead_stays twins.here (onward.success ran) same
    have advanced := movedTo_consumedIf (.clean .noProgress next.location) last (twins_further begun)
    exact .inr ⟨⟨value,last,determined.success twins ran,Nat.lt_irrefl _⟩,advanced⟩

theorem separatedBroken_determined (forth : Onward item) (onward : Onward separator) (within : Determined item)
    (between : Determined separator) (begun : Twins start origin cursor other) (twins : Twins cursor other stop last)
    (broken : SeparatedBroken item separator start cursor failed) (placed : failed.fault.location = stop.location)
    (immediate : failed.Immediate) : SeparatedBroken item separator origin other (failed.movedTo last) := by
  rcases broken with ⟨ran,committed⟩ | ⟨mark,after,later,ran,missing,rfl⟩ | ⟨⟨value,next,round,same⟩,rfl⟩
  · exact .inl ⟨between.failure twins ran placed immediate,committed⟩
  · obtain ⟨half,left,right⟩ := twins_located twins (onward.success ran) (forth.failure missing) placed
    have refused := within.failure right missing placed (immediate_earlier immediate)
    have advanced := movedTo_consumedIf later last (twins_further (twins_trans begun left))
    exact .inr (.inl ⟨mark,half,_,between.success left ran,refused,advanced⟩)
  · obtain ⟨rfl,rfl⟩ := twins_placed twins placed rfl
    obtain rfl := ahead_stays twins.here (round_ahead forth onward round) same
    have advanced := movedTo_consumedIf (.clean .noProgress next.location) last (twins_further begun)
    have rounds := round_determined forth onward within between twins round
    exact .inr (.inr ⟨⟨value,last,rounds,Nat.lt_irrefl _⟩,advanced⟩)

theorem many_determined (onward : Onward parser) (truthful : Truthful checks parser) (determined : Determined parser) :
    Determined parser.many where
  success := by
    intro one two stop last values twins ran
    obtain ⟨chain,declined⟩ := many_succeeds.mp ran
    have declines := determined_declines onward truthful determined (twins_there twins) declined
    exact many_succeeds.mpr ⟨chain_determined chain onward.success determined.success twins,declines⟩
  failure := by
    intro one two stop last failed twins ran placed immediate
    obtain ⟨values,middle,chain,broken⟩ := many_fails.mp ran
    have forth := chain_ahead onward.success chain
    obtain ⟨half,left,right⟩ := twins_located twins forth (repeatBroken_located onward broken) placed
    have breaks := repeatBroken_determined onward determined left right broken placed immediate
    exact many_fails.mpr ⟨values,half,chain_determined chain onward.success determined.success left,breaks⟩

theorem many1_determined (onward : Onward parser) (truthful : Truthful checks parser) (determined : Determined parser) :
    Determined parser.many1 where
  success := by
    intro one two stop last values twins ran
    obtain ⟨value,next,others,ran,chain,declined,made⟩ := many1_succeeds.mp ran
    obtain ⟨half,left,right⟩ := twins_between twins (onward.success ran) (chain_ahead onward.success chain)
    have declines := determined_declines onward truthful determined (twins_there twins) declined
    have chained := chain_determined chain onward.success determined.success right
    exact many1_succeeds.mpr ⟨value,half,others,determined.success left ran,chained,declines,made⟩
  failure := by
    intro one two stop last failed twins ran placed immediate
    rcases many1_fails.mp ran with missing | ⟨value,next,ran,values,middle,chain,broken⟩
    · exact many1_fails.mpr (.inl (determined.failure twins missing placed immediate))
    · have through := chain_ahead onward.success chain
      obtain ⟨_,begun,right⟩ := twins_located twins (ahead_trans (onward.success ran) through)
        (repeatBroken_located onward broken) placed
      obtain ⟨half,left,between⟩ := twins_between begun (onward.success ran) through
      have breaks := repeatBroken_determined onward determined begun right broken placed immediate
      have chained := chain_determined chain onward.success determined.success between
      exact many1_fails.mpr (.inr ⟨value,half,determined.success left ran,values,_,chained,breaks⟩)

theorem separatedBy_determined (forth : Onward item) (onward : Onward separator) (truthful : Truthful checks separator)
    (within : Determined item) (between : Determined separator) : Determined (item.separatedBy separator) where
  success := by
    intro one two stop last values twins ran
    obtain ⟨value,next,others,ran,chain,declined,made⟩ := separatedBy_succeeds.mp ran
    have through := chain_ahead (round_ahead forth onward) chain
    obtain ⟨half,left,right⟩ := twins_between twins (forth.success ran) through
    have declines := determined_declines onward truthful between (twins_there twins) declined
    have chained := chain_determined chain (round_ahead forth onward) (round_determined forth onward within between) right
    exact separatedBy_succeeds.mpr ⟨value,half,others,within.success left ran,chained,declines,made⟩
  failure := by
    intro one two stop last failed twins ran placed immediate
    rcases separatedBy_fails.mp ran with missing | ⟨value,next,ran,values,middle,chain,broken⟩
    · exact separatedBy_fails.mpr (.inl (within.failure twins missing placed immediate))
    · have through := chain_ahead (round_ahead forth onward) chain
      obtain ⟨_,begun,right⟩ := twins_located twins (ahead_trans (forth.success ran) through)
        (separatedBroken_located forth onward broken) placed
      obtain ⟨half,left,rounds⟩ := twins_between begun (forth.success ran) through
      have breaks := separatedBroken_determined forth onward within between begun right broken placed immediate
      have chained := chain_determined chain (round_ahead forth onward) (round_determined forth onward within between) rounds
      exact separatedBy_fails.mpr (.inr ⟨value,half,within.success left ran,values,_,chained,breaks⟩)

end Loops

theorem composed_determined {allowed : Allowance} {parser : Parser α}
    (plain : allowed.attempt = false ∧ allowed.optional = false ∧ allowed.span = false)
    (composed : Composed allowed parser) : Determined parser := by
  induction composed with
  | satisfy test expected => exact satisfy_determined test expected
  | eof => exact eof_determined
  | pure value => exact pure_determined value
  | fail message => exact fail_determined message
  | map f _ inner => exact map_determined f inner
  | mapReporting f _ inner => exact mapReporting_determined f inner
  | tryMap convert _ part inner => exact tryMap_determined convert (composed_onward part) inner
  | bind part chosen inner later =>
      exact bind_determined (composed_onward part) (fun value => composed_onward (chosen value)) inner later
  | pair first second before after =>
      exact pair_determined (composed_onward first) (composed_onward second) before after
  | between opening content closing opened filled closed =>
      exact between_determined (composed_onward opening) (composed_onward content) (composed_onward closing) opened
        filled closed
  | orElse first _ inner instead =>
      exact orElse_determined (composed_onward first) (composed_truthful plain.1 first) inner instead
  | attempt rewound => exact absurd (rewound.symm.trans plain.1) (by decide)
  | optional recovers => exact absurd (recovers.symm.trans plain.2.1) (by decide)
  | many part inner => exact many_determined (composed_onward part) (composed_truthful plain.1 part) inner
  | many1 part inner => exact many1_determined (composed_onward part) (composed_truthful plain.1 part) inner
  | separatedBy item separator within between =>
      exact separatedBy_determined (composed_onward item) (composed_onward separator)
        (composed_truthful plain.1 separator) within between
  | withSpan spanned => exact absurd (spanned.symm.trans plain.2.2) (by decide)
  | recognize _ inner => exact recognize_determined inner

end Parser

end CommittedParsing
