import CommittedParsing.Proofs.Parser.Location

namespace CommittedParsing.Parser

open Cursor

variable {α β : Type}

section Chains

variable {step : Cursor → α → Cursor → Prop} {cursor middle place stop : Cursor} {value : α} {values others : List α}

theorem chain_append (chain : Chain step cursor values middle) (further : Chain step middle others stop) :
    Chain step cursor (values ++ others) stop := by
  induction chain with
  | nil => exact further
  | cons goes less _ ih => exact .cons goes less (ih further)

theorem chain_remaining (chain : Chain step cursor values stop) : stop.remaining ≤ cursor.remaining := by
  induction chain with
  | nil => exact Nat.le_refl _
  | cons _ less _ ih => exact Nat.le_of_lt (Nat.lt_of_le_of_lt ih less)

theorem chain_closed (chain : Chain step cursor values cursor) : values = [] := by
  cases chain with
  | nil => rfl
  | cons _ less rest => exact absurd (Nat.lt_of_le_of_lt (chain_remaining rest) less) (Nat.lt_irrefl _)

theorem chain_last (chain : Chain step cursor values stop) (some : values ≠ []) : ∃ before place value,
    values = before ++ [value] ∧ Chain step cursor before place ∧ step place value stop := by
  induction chain with
  | nil => exact absurd rfl some
  | @cons cursor next stop first rest goes less chain ih =>
      cases rest with
      | nil =>
          cases chain
          exact ⟨[],cursor,first,rfl,.nil,goes⟩
      | cons =>
          obtain ⟨before,place,value,same,earlier,last⟩ := ih (List.cons_ne_nil _ _)
          exact ⟨first :: before,place,value,congrArg (first :: ·) same,.cons goes less earlier,last⟩

theorem chain_continues (chain : Chain step cursor values stop) (ended : ∀ value next, ¬ step stop value next)
    (other : Chain step cursor others place) (unique : ∀ {cursor next other value result}, step cursor value next →
      step cursor result other → value = result ∧ next = other) :
    ∃ rest, Chain step place rest stop ∧ values = others ++ rest := by
  induction other generalizing values with
  | nil => exact ⟨values,chain,rfl⟩
  | cons goes _ _ ih =>
      cases chain with
      | nil => exact absurd goes (ended _ _)
      | cons went _ later =>
          obtain ⟨rfl,rfl⟩ := unique goes went
          obtain ⟨rest,onward,rfl⟩ := ih later
          exact ⟨rest,onward,rfl⟩

end Chains

theorem many1_chain {parser : Parser α} {source : String} {cursor stop : Cursor} {values : List α}
    (advances : ∀ {cursor value stop}, Reached source cursor → Succeeds parser cursor value stop →
      stop.remaining < cursor.remaining) (reached : Reached source cursor) :
    Succeeds parser.many1 cursor values stop ↔
      values ≠ [] ∧ Chain (Succeeds parser) cursor values stop ∧ Declines parser stop := by
  rw [many1_succeeds]
  constructor
  · intro found
    obtain ⟨value,next,others,ran,chain,declined,rfl⟩ := found
    exact ⟨List.cons_ne_nil _ _,.cons ran (advances reached ran) chain,declined⟩
  · intro found
    obtain ⟨some,chain,declined⟩ := found
    cases chain with
    | nil => exact absurd rfl some
    | cons ran _ chain => exact ⟨_,_,_,ran,chain,declined,rfl⟩

def Skips (skip : Parser β) (cursor stop : Cursor) : Prop := ∃ value, Succeeds skip cursor value stop

-- The body that was matched last, after skipping and any number of bodies with something skipped behind, ended here.
def LastEndsAt (skip : Parser β) (body : Parser α) (cursor stop : Cursor) : Prop :=
  ∃ opened values place value, Skips skip cursor opened ∧ Chain (Succeeds (body.left skip)) opened values place ∧
    Succeeds body place value stop

structure Padding (source : String) (skip : Parser β) (body : Parser α) : Prop where
  skipping : Onward skip
  onward : Onward body
  skips : ∀ {cursor}, Reached source cursor → ∃ stop, Skips skip cursor stop
  advances : ∀ {cursor value stop}, Reached source cursor → Succeeds body cursor value stop →
    cursor.position < stop.position

section Padding

variable {source : String} {skip : Parser β} {body : Parser α} {cursor opened middle place stop : Cursor} {value : α}
  {values : List α}

theorem skips_unique (first : Skips skip cursor middle) (second : Skips skip cursor place) : middle = place := by
  obtain ⟨_,ran⟩ := first
  obtain ⟨_,other⟩ := second
  exact (succeeds_unique ran other).2

theorem leading_exact : Succeeds (skip.right body) cursor value stop ↔
    ∃ middle, Skips skip cursor middle ∧ Succeeds body middle value stop := by
  rw [right_succeeds]
  exact exists_congr fun middle => exists_and_right

theorem trailing_exact : Succeeds (body.left skip) cursor value stop ↔
    ∃ middle, Succeeds body cursor value middle ∧ Skips skip middle stop := by
  rw [left_succeeds]
  exact exists_congr fun middle => exists_and_left

theorem trailing_stops {failed : Failure} (missed : Fails body cursor failed) :
    ¬ Succeeds (body.left skip) cursor value stop := by
  intro goes
  obtain ⟨_,ran,_⟩ := trailing_exact.mp goes
  exact succeeds_not_fails ran missed

section Steps

variable (padding : Padding source skip body)

include padding

theorem skips_ahead (skipped : Skips skip cursor stop) : cursor.Ahead stop := by
  obtain ⟨_,ran⟩ := skipped
  exact padding.skipping.success ran

theorem skips_reached (reached : Reached source cursor) (skipped : Skips skip cursor stop) : Reached source stop := by
  obtain ⟨_,passed⟩ := skips_ahead padding skipped
  exact reads_reached reached passed

theorem body_reached (reached : Reached source cursor) (ran : Succeeds body cursor value stop) : Reached source stop := by
  obtain ⟨_,passed⟩ := padding.onward.success ran
  exact reads_reached reached passed

theorem leading_ahead (ran : Succeeds (skip.right body) cursor value stop) : cursor.Ahead stop :=
  (map_onward _ (pair_onward padding.skipping padding.onward)).success ran

theorem trailing_ahead (ran : Succeeds (body.left skip) cursor value stop) : cursor.Ahead stop :=
  (map_onward _ (pair_onward padding.onward padding.skipping)).success ran

theorem leading_reached (reached : Reached source cursor) (chain : Chain (Succeeds (skip.right body)) cursor values stop) :
    Reached source stop := by
  obtain ⟨_,passed⟩ := chain_ahead (leading_ahead padding) chain
  exact reads_reached reached passed

theorem trailing_reached (reached : Reached source cursor) (chain : Chain (Succeeds (body.left skip)) cursor values stop) :
    Reached source stop := by
  obtain ⟨_,passed⟩ := chain_ahead (trailing_ahead padding) chain
  exact reads_reached reached passed

theorem leading_less (reached : Reached source cursor) (ran : Succeeds (skip.right body) cursor value stop) :
    stop.remaining < cursor.remaining := by
  obtain ⟨middle,skipped,inside⟩ := leading_exact.mp ran
  have before := ahead_position (skips_ahead padding skipped)
  have further := padding.advances (skips_reached padding reached skipped) inside
  exact further_less reached (leading_ahead padding ran) (Nat.lt_of_le_of_lt before further)

theorem trailing_less (reached : Reached source cursor) (ran : Succeeds (body.left skip) cursor value stop) :
    stop.remaining < cursor.remaining := by
  obtain ⟨middle,inside,skipped⟩ := trailing_exact.mp ran
  have further := further_ahead (padding.advances reached inside) (skips_ahead padding skipped)
  exact further_less reached (trailing_ahead padding ran) further

-- Skipping in front of a body stops a loop only where there is nothing to skip: else the missing body is an error.
theorem leading_declines (reached : Reached source cursor) :
    Declines (skip.right body) cursor ↔ Skips skip cursor cursor ∧ Declines body cursor := by
  obtain ⟨middle,value,skipped⟩ := padding.skips reached
  constructor
  · intro declined
    obtain ⟨_,refused,unread⟩ := declined
    rcases pair_fails.mp (map_fails.mp refused) with missed | ⟨_,_,later,ran,missed,rfl⟩
    · exact absurd missed (succeeds_not_fails skipped)
    · obtain ⟨_,rfl⟩ := succeeds_unique skipped ran
      simp only [Failure.consumedIf_consumed,Bool.or_eq_false_iff,decide_eq_false_iff_not] at unread
      have same : middle = cursor := by
        rcases ahead_cases (padding.skipping.success skipped) with stayed | further
        · exact stayed
        · exact absurd further unread.2
      subst same
      exact ⟨⟨value,skipped⟩,later,missed,unread.1⟩
  · intro found
    obtain ⟨⟨_,stayed⟩,failed,missed,unread⟩ := found
    refine ⟨failed.consumedIf (cursor.position < cursor.position),?_,by simp [unread]⟩
    exact map_fails.mpr (pair_fails.mpr (.inr ⟨_,cursor,failed,stayed,missed,rfl⟩))

theorem trailing_declines (reached : Reached source cursor) : Declines (body.left skip) cursor ↔ Declines body cursor := by
  constructor
  · intro declined
    obtain ⟨failed,refused,unread⟩ := declined
    rcases pair_fails.mp (map_fails.mp refused) with missed | ⟨_,_,_,ran,missed,rfl⟩
    · exact ⟨failed,missed,unread⟩
    · obtain ⟨_,_,skipped⟩ := padding.skips (body_reached padding reached ran)
      exact absurd missed (succeeds_not_fails skipped)
  · intro declined
    obtain ⟨failed,missed,unread⟩ := declined
    exact ⟨failed,map_fails.mpr (pair_fails.mpr (.inl missed)),unread⟩

-- A round that skips in front of its body is, without what it skips, a round that skips behind it what comes next.
theorem chain_trails (reached : Reached source cursor) (chain : Chain (Succeeds (skip.right body)) cursor values stop)
    (skipped : Skips skip cursor opened) :
    ∃ place, Skips skip stop place ∧ Chain (Succeeds (body.left skip)) opened values place := by
  induction chain generalizing opened with
  | nil => exact ⟨opened,skipped,.nil⟩
  | cons goes _ _ ih =>
      obtain ⟨middle,before,ran⟩ := leading_exact.mp goes
      obtain rfl := skips_unique skipped before
      have inside := skips_reached padding reached skipped
      have behind := body_reached padding inside ran
      obtain ⟨next,onward⟩ := padding.skips behind
      obtain ⟨place,last,trailing⟩ := ih behind onward
      have round := trailing_exact.mpr ⟨_,ran,onward⟩
      exact ⟨place,last,.cons round (trailing_less padding inside round) trailing⟩

theorem chain_leads (reached : Reached source cursor) (chain : Chain (Succeeds (body.left skip)) opened values place)
    (skipped : Skips skip cursor opened) :
    ∃ stop, Skips skip stop place ∧ Chain (Succeeds (skip.right body)) cursor values stop := by
  induction chain generalizing cursor with
  | nil => exact ⟨cursor,skipped,.nil⟩
  | cons goes _ _ ih =>
      obtain ⟨middle,ran,behind⟩ := trailing_exact.mp goes
      have round := leading_exact.mpr ⟨_,skipped,ran⟩
      have inside := skips_reached padding reached skipped
      obtain ⟨stop,last,leading⟩ := ih (body_reached padding inside ran) behind
      exact ⟨stop,last,.cons round (leading_less padding reached round) leading⟩

end Steps

-- Where the body that was matched last ended, a loop that stops there has skipped nothing behind it.
theorem chain_settles (padding : Padding source skip body) (reached : Reached source cursor)
    (skipped : Skips skip cursor opened) (chain : Chain (Succeeds (body.left skip)) opened values stop)
    (declined : Declines body stop) (last : LastEndsAt skip body cursor stop) :
    Skips skip stop stop ∧ Chain (Succeeds (skip.right body)) cursor values stop := by
  obtain ⟨first,before,place,value,begun,earlier,ran⟩ := last
  obtain rfl := skips_unique skipped begun
  have inside := trailing_reached padding (skips_reached padding reached skipped) earlier
  obtain ⟨after,behind⟩ := padding.skips (body_reached padding inside ran)
  have round := trailing_exact.mpr ⟨stop,ran,behind⟩
  have whole := chain_append earlier (.cons round (trailing_less padding inside round) .nil)
  -- The loop that skips behind has come past the last body, too, and cannot have gone further than where it stopped.
  have ended (value : α) (next : Cursor) : ¬ Succeeds (body.left skip) stop value next := by
    obtain ⟨_,missed,_⟩ := declined
    exact trailing_stops missed
  obtain ⟨rest,later,rfl⟩ := chain_continues chain ended whole succeeds_unique
  have stayed : after = stop := by
    rcases ahead_cases (skips_ahead padding behind) with same | further
    · exact same
    · exact absurd (ahead_position (chain_ahead (trailing_ahead padding) later)) (Nat.not_le_of_lt further)
  subst stayed
  obtain rfl := chain_closed later
  obtain ⟨near,closing,leading⟩ := chain_leads padding reached earlier skipped
  have final := leading_exact.mpr ⟨place,closing,ran⟩
  have less := leading_less padding (leading_reached padding reached leading) final
  rw [List.append_nil]
  exact ⟨behind,chain_append leading (.cons final less .nil)⟩

-- A loop that skips in front succeeds exactly where the other one does with its last body ending there.
theorem many1_rotates (padding : Padding source skip body) (reached : Reached source cursor) :
    Succeeds (skip.right body).many1 cursor values stop ↔
      Succeeds (skip.right (body.left skip).many1) cursor values stop ∧ LastEndsAt skip body cursor stop := by
  rw [many1_chain (leading_less padding) reached]
  constructor
  · intro found
    obtain ⟨some,chain,declined⟩ := found
    have ended := leading_reached padding reached chain
    obtain ⟨stayed,unread⟩ := (leading_declines padding ended).mp declined
    obtain ⟨opened,skipped⟩ := padding.skips reached
    have inside := skips_reached padding reached skipped
    constructor
    · obtain ⟨place,closing,trailing⟩ := chain_trails padding reached chain skipped
      obtain rfl := skips_unique stayed closing
      have quiet := (trailing_declines padding ended).mpr unread
      exact leading_exact.mpr ⟨opened,skipped,(many1_chain (trailing_less padding) inside).mpr ⟨some,trailing,quiet⟩⟩
    · obtain ⟨before,near,value,rfl,earlier,last⟩ := chain_last chain some
      obtain ⟨place,closing,trailing⟩ := chain_trails padding reached earlier skipped
      obtain ⟨middle,between,ran⟩ := leading_exact.mp last
      obtain rfl := skips_unique closing between
      exact ⟨opened,before,place,value,skipped,trailing,ran⟩
  · intro found
    obtain ⟨ran,last⟩ := found
    obtain ⟨opened,skipped,ran⟩ := leading_exact.mp ran
    have inside := skips_reached padding reached skipped
    obtain ⟨some,chain,declined⟩ := (many1_chain (trailing_less padding) inside).mp ran
    have ended := trailing_reached padding inside chain
    have unread := (trailing_declines padding ended).mp declined
    obtain ⟨stayed,leading⟩ := chain_settles padding reached skipped chain unread last
    exact ⟨some,leading,(leading_declines padding ended).mpr ⟨stayed,unread⟩⟩

end Padding

end CommittedParsing.Parser
