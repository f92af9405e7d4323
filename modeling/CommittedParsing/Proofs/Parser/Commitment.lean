import CommittedParsing.Proofs.Parser.Location

namespace CommittedParsing.Parser

open Cursor

variable {α β γ : Type}

-- The commitment of a failure fits its place, seen from where the parser stood; `checks` tells whether
-- values may be rejected after they were read.
structure TruthfulAt (checks : Bool) (start : Cursor) (failed : Failure) : Prop where
  uncommitted : failed.consumed = false → failed.position = start.position
  committed : failed.consumed = true → start.position < failed.position ∨
    checks = true ∧ (∃ message, failed.fault.cause = .rejected message) ∧ failed.position = start.position

def Truthful (checks : Bool) (parser : Parser α) : Prop :=
  ∀ {cursor failed}, Fails parser cursor failed → TruthfulAt checks cursor failed

section Places

variable {checks : Bool} {start middle : Cursor} {failed : Failure}

theorem truthfulAt_here (cause : Cause) (start : Cursor) : TruthfulAt checks start (.clean cause start.location) where
  uncommitted := fun _ => rfl
  committed := nofun

theorem truthfulAt_reaches (truthful : TruthfulAt checks start failed) : start.position ≤ failed.position := by
  cases committed : failed.consumed with
  | false => exact Nat.le_of_eq (truthful.uncommitted committed).symm
  | true =>
      rcases truthful.committed committed with further | ⟨_,_,same⟩
      · exact Nat.le_of_lt further
      · exact Nat.le_of_eq same.symm

-- The one step that every combinator takes: a failure that is truthful from a later cursor becomes truthful
-- from an earlier one when it is committed exactly if there is a distance between the two.
theorem truthfulAt_earlier (reach : start.position ≤ middle.position) (truthful : TruthfulAt checks middle failed) :
    TruthfulAt checks start (failed.consumedIf (start.position < middle.position)) := by
  rcases Nat.lt_or_eq_of_le reach with advanced | same
  · have further : start.position < failed.position := Nat.lt_of_lt_of_le advanced (truthfulAt_reaches truthful)
    exact ⟨by simp [advanced],fun _ => .inl further⟩
  · rw [same,decide_eq_false (Nat.lt_irrefl _),Failure.consumedIf_false]
    exact ⟨same ▸ truthful.uncommitted,same ▸ truthful.committed⟩

theorem truthfulAt_committed (reach : start.position ≤ middle.position) (truthful : TruthfulAt checks middle failed)
    (committed : failed.consumed = true) : TruthfulAt checks start failed := by
  have earlier := truthfulAt_earlier reach truthful
  rwa [Failure.consumedIf_committed committed] at earlier

theorem stuck_truthfulAt (reach : start.position ≤ middle.position) : TruthfulAt checks start (stuck start middle) :=
  truthfulAt_earlier reach (truthfulAt_here .noProgress middle)

end Places

section Combined

variable {checks : Bool} {parser first item : Parser α} {second separator : Parser β}

theorem satisfy_truthful (test : Char → Bool) (expected : String) : Truthful checks (satisfy test expected) := by
  intro cursor failed ran
  rcases satisfy_fails.mp ran with ⟨_,rfl⟩ | ⟨_,_,_,rfl⟩
  · exact truthfulAt_here _ cursor
  · exact truthfulAt_here _ cursor

theorem eof_truthful : Truthful checks eof := by
  intro cursor failed ran
  obtain ⟨_,_,rfl⟩ := eof_fails.mp ran
  exact truthfulAt_here _ cursor

theorem fail_truthful (message : String) : Truthful checks (Parser.fail message : Parser α) := by
  intro cursor failed ran
  obtain rfl := fail_fails.mp ran
  exact truthfulAt_here _ cursor

-- The rejection of a value is located at its start, whether or not the value took any text.
theorem tryMap_truthful (convert : α → Except String β) (truthful : Truthful true parser) :
    Truthful true (parser.tryMap convert) := by
  intro cursor failed ran
  rcases tryMap_fails.mp ran with inner | ⟨_,middle,message,_,_,rfl⟩
  · exact truthful inner
  · exact ⟨fun _ => rfl,fun _ => .inr ⟨rfl,⟨message,rfl⟩,rfl⟩⟩

theorem bind_truthful {next : α → Parser β} (onward : Onward parser) (truthful : Truthful checks parser)
    (later : ∀ value, Truthful checks (next value)) : Truthful checks (parser.bind next) := by
  intro cursor failed ran
  rcases bind_fails.mp ran with before | ⟨inner,_,_,before,after,rfl⟩
  · exact truthful before
  · exact truthfulAt_earlier (ahead_position (onward.success before)) (later inner after)

theorem pair_truthful (onward : Onward first) (before : Truthful checks first) (after : Truthful checks second) :
    Truthful checks (first.pair second) := by
  intro cursor failed ran
  rcases pair_fails.mp ran with one | ⟨_,_,_,one,two,rfl⟩
  · exact before one
  · exact truthfulAt_earlier (ahead_position (onward.success one)) (after two)

theorem between_truthful {opening : Parser α} {content : Parser β} {closing : Parser γ} (forth : Onward opening)
    (through : Onward content) (opened : Truthful checks opening) (filled : Truthful checks content)
    (closed : Truthful checks closing) : Truthful checks (between opening content closing) := by
  intro cursor failed ran
  rcases between_fails.mp ran with one | ⟨_,_,_,one,two,rfl⟩ | ⟨_,_,_,_,_,one,two,three,rfl⟩
  · exact opened one
  · exact truthfulAt_earlier (ahead_position (forth.success one)) (filled two)
  · have reach := ahead_trans (forth.success one) (through.success two)
    exact truthfulAt_earlier (ahead_position reach) (closed three)

theorem orElse_truthful {other : Parser α} (truthful : Truthful checks parser) (instead : Truthful checks other) :
    Truthful checks (parser.orElse other) := by
  intro cursor failed ran
  rcases orElse_fails.mp ran with ⟨one,_⟩ | ⟨_,two⟩
  · exact truthful one
  · exact instead two

theorem repeatBroken_truthful {start cursor : Cursor} {failed : Failure} (truthful : Truthful checks parser)
    (reach : start.position ≤ cursor.position) (broken : RepeatBroken parser start cursor failed) :
    TruthfulAt checks start failed := by
  rcases broken with ⟨ran,committed⟩ | ⟨_,rfl⟩
  · exact truthfulAt_committed reach (truthful ran) committed
  · exact stuck_truthfulAt reach

theorem separatedBroken_truthful {start cursor : Cursor} {failed : Failure} (onward : Onward separator)
    (within : Truthful checks item) (between : Truthful checks separator) (reach : start.position ≤ cursor.position)
    (broken : SeparatedBroken item separator start cursor failed) : TruthfulAt checks start failed := by
  rcases broken with ⟨ran,committed⟩ | ⟨_,_,_,ran,missing,rfl⟩ | ⟨_,rfl⟩
  · exact truthfulAt_committed reach (between ran) committed
  · exact truthfulAt_earlier (Nat.le_trans reach (ahead_position (onward.success ran))) (within missing)
  · exact stuck_truthfulAt reach

theorem many_truthful (onward : Onward parser) (truthful : Truthful checks parser) : Truthful checks parser.many := by
  intro cursor failed ran
  obtain ⟨_,_,chain,broken⟩ := many_fails.mp ran
  exact repeatBroken_truthful truthful (ahead_position (chain_ahead onward.success chain)) broken

theorem many1_truthful (onward : Onward parser) (truthful : Truthful checks parser) :
    Truthful checks parser.many1 := by
  intro cursor failed ran
  rcases many1_fails.mp ran with one | ⟨_,_,one,_,_,chain,broken⟩
  · exact truthful one
  · have reach := ahead_trans (onward.success one) (chain_ahead onward.success chain)
    exact repeatBroken_truthful truthful (ahead_position reach) broken

theorem separatedBy_truthful (forth : Onward item) (onward : Onward separator) (within : Truthful checks item)
    (between : Truthful checks separator) : Truthful checks (item.separatedBy separator) := by
  intro cursor failed ran
  rcases separatedBy_fails.mp ran with one | ⟨_,_,one,_,_,chain,broken⟩
  · exact within one
  · have reach := ahead_trans (forth.success one) (chain_ahead (round_ahead forth onward) chain)
    exact separatedBroken_truthful onward within between (ahead_position reach) broken

end Combined

theorem composed_truthful {allowed : Allowance} {parser : Parser α} (kept : allowed.attempt = false)
    (composed : Composed allowed parser) : Truthful allowed.check parser := by
  induction composed with
  | satisfy test expected => exact satisfy_truthful test expected
  | eof => exact eof_truthful
  | pure value => exact fun ran => absurd ran pure_fails
  | fail message => exact fail_truthful message
  | map f _ inner => exact fun ran => inner (map_fails.mp ran)
  | mapReporting f _ inner => exact fun ran => inner (mapReporting_fails.mp ran)
  | tryMap convert checked _ inner =>
      rw [checked] at inner ⊢
      exact tryMap_truthful convert inner
  | bind one _ inner later => exact bind_truthful (composed_onward one) inner later
  | pair one _ before after => exact pair_truthful (composed_onward one) before after
  | between one two _ opened filled closed =>
      exact between_truthful (composed_onward one) (composed_onward two) opened filled closed
  | orElse _ _ inner instead => exact orElse_truthful inner instead
  | attempt rewound => exact absurd (rewound.symm.trans kept) (by decide)
  | optional => exact fun ran => absurd ran optional_fails
  | many one inner => exact many_truthful (composed_onward one) inner
  | many1 one inner => exact many1_truthful (composed_onward one) inner
  | separatedBy one two within between =>
      exact separatedBy_truthful (composed_onward one) (composed_onward two) within between
  | withSpan _ _ inner => exact fun ran => inner (withSpan_fails.mp ran)
  | recognize _ inner => exact fun ran => inner (recognize_fails.mp ran)

-- Without a commitment taken back, where a failure is located is what its commitment says; without checks
-- of values, the two say the same.
theorem composed_commitment {allowed : Allowance} {parser : Parser α} (kept : allowed.attempt = false)
    (composed : Composed allowed parser) {cursor : Cursor} {failed : Failure} (ran : Fails parser cursor failed) :
    (failed.consumed = false → failed.position = cursor.position) ∧
    (failed.consumed = true → cursor.position < failed.position ∨
      (∃ message, failed.fault.cause = .rejected message) ∧ failed.position = cursor.position) ∧
    (allowed.check = false → (failed.consumed = true ↔ cursor.position < failed.position)) := by
  have truthful : TruthfulAt allowed.check cursor failed := composed_truthful kept composed ran
  refine ⟨truthful.uncommitted,fun committed => (truthful.committed committed).imp_right And.right,?_⟩
  intro unchecked
  constructor
  · intro committed
    rcases truthful.committed committed with further | ⟨checked,_⟩
    · exact further
    · exact absurd (checked.symm.trans unchecked) (by decide)
  · intro further
    cases committed : failed.consumed with
    | true => rfl
    | false =>
        rw [truthful.uncommitted committed] at further
        exact absurd further (Nat.lt_irrefl _)

theorem broken_round_commitment :
    Composed ⟨false,true,true,false⟩ ((char 'é').pair (char '=')).many ∧
    (∃ failed, Fails ((char 'é').pair (char '=')).many ⟨"xé=é;",1,['é','=','é',';']⟩ failed ∧
      failed.position = 6 ∧ (failed.consumed = true ↔ 1 < failed.position)) ∧
    Composed ⟨false,true,true,true⟩ (anyChar.tryMap fun _ => (.error "refused" : Except String Char)) ∧
    ∃ failed, Fails (anyChar.tryMap fun _ => (.error "refused" : Except String Char)) ⟨"é;",0,['é',';']⟩ failed ∧
      failed.consumed = true ∧
      (0 < failed.position ∨ (∃ message, failed.fault.cause = .rejected message) ∧ failed.position = 0) := by
  have composed : Composed ⟨false,true,true,false⟩ ((char 'é').pair (char '=')).many :=
    .many (.pair (.satisfy _ _) (.satisfy _ _))
  have round : Chain (Succeeds ((char 'é').pair (char '='))) ⟨"xé=é;",1,['é','=','é',';']⟩ [('é','=')]
      ⟨"xé=é;",4,['é',';']⟩ := .cons rfl (by decide) .nil
  have broken := many_fails.mpr ⟨_,_,round,.inl ⟨rfl,rfl⟩⟩
  have refusing : Composed ⟨false,true,true,true⟩ (anyChar.tryMap fun _ => (.error "refused" : Except String Char)) :=
    .tryMap _ rfl (.satisfy _ _)
  have refused : Fails (anyChar.tryMap fun _ => (.error "refused" : Except String Char)) ⟨"é;",0,['é',';']⟩
      ⟨⟨.rejected "refused",⟨"é;",0⟩⟩,true⟩ := rfl
  refine ⟨composed,⟨_,broken,rfl,(composed_commitment rfl composed broken).2.2 rfl⟩,refusing,_,refused,rfl,?_⟩
  exact (composed_commitment rfl refusing refused).2.1 rfl

end CommittedParsing.Parser
