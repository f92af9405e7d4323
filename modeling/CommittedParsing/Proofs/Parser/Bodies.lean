import CommittedParsing.Proofs.Parser.Reports
import CommittedParsing.Proofs.Parser.Rotation

namespace CommittedParsing.Parser

open Cursor

variable {α β γ δ : Type}

-- Something is skipped, then these bodies match with something skipped behind each, and then another one fails.
def Bodies (skip : Parser β) (body : Parser α) (cursor : Cursor) (values : List α) : Prop :=
  ∃ opened last failed, Skips skip cursor opened ∧ Chain (Succeeds (body.left skip)) opened values last ∧
    Fails body last failed

section Existence

variable {source : String} {skip : Parser β} {body : Parser α} {cursor : Cursor} {values others : List α}

theorem chain_exhausts (padding : Padding source skip body) (reached : Reached source cursor) :
    ∃ values last failed, Chain (Succeeds (body.left skip)) cursor values last ∧ Fails body last failed := by
  induction size : cursor.remaining using Nat.strongRecOn generalizing cursor with
  | ind n ih =>
      rcases answers body cursor with ⟨value,middle,ran⟩ | ⟨failed,missed⟩
      · obtain ⟨next,behind⟩ := padding.skips (body_reached padding reached ran)
        have round := trailing_exact.mpr ⟨middle,ran,behind⟩
        have less := trailing_less padding reached round
        have further := skips_reached padding (body_reached padding reached ran) behind
        obtain ⟨values,last,failed,chain,missed⟩ := ih _ (size ▸ less) further rfl
        exact ⟨value :: values,last,failed,.cons round less chain,missed⟩
      · exact ⟨[],cursor,failed,.nil,missed⟩

theorem bodies_exist (padding : Padding source skip body) (reached : Reached source cursor) :
    ∃ values, Bodies skip body cursor values := by
  obtain ⟨opened,skipped⟩ := padding.skips reached
  obtain ⟨values,last,failed,chain,missed⟩ := chain_exhausts padding (skips_reached padding reached skipped)
  exact ⟨values,opened,last,failed,skipped,chain,missed⟩

-- The two lists begin at the same place, and neither can go on where the other one ends.
theorem bodies_unique (found : Bodies skip body cursor values) (other : Bodies skip body cursor others) :
    values = others := by
  obtain ⟨opened,last,failed,skipped,chain,missed⟩ := found
  obtain ⟨begun,place,refusal,before,another,refused⟩ := other
  obtain rfl := skips_unique skipped before
  obtain ⟨rest,later,rfl⟩ := chain_continues chain (fun _ _ => trailing_stops missed) another succeeds_unique
  cases later with
  | nil => exact List.append_nil others
  | cons goes => exact absurd goes (trailing_stops refused)

end Existence

section Reports

variable {skip : Parser β} {body : Parser α} (f : α → γ × List Event) (g : List γ → δ × List Event)
  {cursor opened last : Cursor} {values : List α} {failed : Failure}

theorem bodies_loop (silent : Quiet skip) (quiet : Quiet body)
    (chain : Chain (Succeeds (body.left skip)) opened values last) (missed : Fails body last failed) :
    (many1 ((body.mapReporting f).left skip)).run opened =
      ⟨if failed.consumed ∨ values = [] then .failure failed else .success (values.map fun value => (f value).1) last,
        values.flatMap fun value => (f value).2⟩ := by
  refine many1_reports ?_ chain (left_untold (mapReporting_untold (quiet_failure quiet missed)))
  intro cursor value next round
  obtain ⟨middle,ran,mark,behind⟩ := trailing_exact.mp round
  exact left_told (mapReporting_told (quiet_success quiet ran)) (quiet_success silent behind)

theorem bodies_whole (silent : Quiet skip) (quiet : Quiet body) (skipped : Skips skip cursor opened)
    (chain : Chain (Succeeds (body.left skip)) opened values last) (missed : Fails body last failed) :
    ((skip.right (many1 ((body.mapReporting f).left skip))).mapReporting g).run cursor =
      if failed.consumed ∨ values = [] then
        ⟨.failure (failed.consumedIf (cursor.position < opened.position)),values.flatMap fun value => (f value).2⟩
      else ⟨.success (g (values.map fun value => (f value).1)).1 last,
        (values.flatMap fun value => (f value).2) ++ (g (values.map fun value => (f value).1)).2⟩ := by
  obtain ⟨mark,ran⟩ := skipped
  have answered := right_silent (many1 ((body.mapReporting f).left skip)) (quiet_success silent ran)
  rw [bodies_loop f silent quiet chain missed] at answered
  split at answered
  next broken =>
    rw [if_pos broken]
    exact mapReporting_untold answered
  next whole =>
    rw [if_neg whole]
    exact mapReporting_told answered

end Reports

end CommittedParsing.Parser
