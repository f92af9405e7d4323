import CommittedParsing.Proofs.Parser.Complete
import CommittedParsing.Proofs.Parser.Derived
import CommittedParsing.Proofs.Parser.Regrouping
import CommittedParsing.Proofs.Parser.Rounds

namespace CommittedParsing

variable {α β γ δ ε : Type}

def Outcome.result : Outcome α → Except Failure α
  | .success value _ => .ok value
  | .failure failed => .error failed

namespace Parser

open Cursor

section Repetition

variable {parser : Parser α} {source : String} {start place cursor : Cursor}

theorem stuck_earlier (near : start.position ≤ place.position) (far : place.position ≤ cursor.position) :
    stuck start cursor = (stuck place cursor).consumedIf (start.position < place.position) := by
  rw [stuck,stuck,Failure.consumedIf_consumedIf,advanced_through near far]

-- A loop may be owned by a parser that began earlier, as if it began at a place of its own and was then committed.
-- The induction is on what is left; the place stays the same and every round goes further beyond it.
theorem repeatFrom_earlier (forward : Forward parser) (reached : Reached source cursor)
    (near : start.position ≤ place.position) (far : place.position ≤ cursor.position) :
    repeatFrom parser start cursor = (repeatFrom parser place cursor).consumedIf (start.position < place.position) := by
  induction size : cursor.remaining using Nat.strongRecOn generalizing cursor with
  | ind n ih =>
      cases ran : parser.run cursor with
      | mk outcome events =>
      cases outcome with
      | failure failed =>
          rw [repeatFrom_ends ran,repeatFrom_ends ran]
          cases committed : failed.consumed with
          | false => rfl
          | true => simp only [if_true,Reply.consumedIf_failure,Failure.consumedIf_committed committed]
      | success value next =>
      obtain ⟨inside,onward⟩ := forward reached (congrArg Reply.outcome ran)
      by_cases less : next.remaining < cursor.remaining
      · have later := ih _ (size ▸ less) inside (Nat.le_trans far onward) rfl
        rw [repeatFrom_goes ran less,repeatFrom_goes ran less,later]
        rcases repeatFrom parser place next with ⟨success | failed,rest⟩ <;> rfl
      · rw [repeatFrom_sticks ran less,repeatFrom_sticks ran less,stuck_earlier near far]
        rfl

theorem many1_unfolds (forward : Forward parser) :
    Interchangeable parser.many1 ((parser.pair parser.many).map fun (value,values) => value :: values) := by
  intro source cursor reached
  simp only [many1,map,pair,many]
  cases ran : parser.run cursor with
  | mk outcome events =>
  cases outcome with
  | failure failed => rfl
  | success value next =>
      obtain ⟨inside,near⟩ := forward reached (congrArg Reply.outcome ran)
      have loops := repeatFrom_earlier forward inside near (Nat.le_refl _)
      simp only [Reply.andThen_success,loops]
      rcases (repeatFrom parser next next).consumedIf (cursor.position < next.position) with
        ⟨success | failed,rest⟩ <;> rfl

end Repetition

section Complete

variable {grammar : Parser α} {text : String}

theorem parseComplete_unfolds :
    (grammar.parseComplete text).result = ((grammar.left eof).run (Cursor.start text)).outcome.result := by
  rcases answers (grammar.left eof) (Cursor.start text) with ⟨value,stop,ran⟩ | ⟨failed,ran⟩
  · rw [parseComplete_ok.mpr ⟨stop,ran⟩,show ((grammar.left eof).run _).outcome = .success value stop from ran]
    rfl
  · rw [parseComplete_error.mpr ran,show ((grammar.left eof).run _).outcome = .failure failed from ran]
    rfl

end Complete

-- The three derived parsers agree with their definitions in values, cursors, failures, places and commitments. Only the
-- required repetition relies on its parser not going back.
theorem derived_unfold (parser : Parser α) (forward : Forward parser) (opening : Parser β) (content : Parser γ)
    (closing : Parser δ) (grammar : Parser ε) :
    Interchangeable parser.many1 ((parser.pair parser.many).map fun (value,values) => value :: values) ∧
    Interchangeable (between opening content closing) ((opening.right content).left closing) ∧
    ∀ text, (grammar.parseComplete text).result =
      ((grammar.left eof).run (Cursor.start text)).outcome.result :=
  ⟨many1_unfolds forward,fun {_ _} _ => between_sequence opening content closing _,fun _ => parseComplete_unfolds⟩

theorem optional_repetition_unfolds :
    Forward (char 'é').optional ∧
    Fails (char 'é').optional.many1 (Cursor.start "éx") ⟨⟨.noProgress,⟨"éx",2⟩⟩,true⟩ ∧
    Fails (char 'é').optional.many ⟨"éx",2,['x']⟩ ⟨⟨.noProgress,⟨"éx",2⟩⟩,false⟩ ∧
    Fails (((char 'é').optional.pair (char 'é').optional.many).map fun (value,values) => value :: values)
      (Cursor.start "éx") ⟨⟨.noProgress,⟨"éx",2⟩⟩,true⟩ ∧
    Fails (between (char '[') (char 'é') (char ']')) (Cursor.start "[éx") ⟨⟨.unexpected "']'" "'x'",⟨"[éx",3⟩⟩,true⟩ ∧
    Fails (((char '[').right (char 'é')).left (char ']')) (Cursor.start "[éx")
      ⟨⟨.unexpected "']'" "'x'",⟨"[éx",3⟩⟩,true⟩ ∧
    ((char 'é').parseComplete "éx").result = .error ⟨⟨.trailing 'x',⟨"éx",2⟩⟩,true⟩ := by
  have maybe : Composed .everything (char 'é').optional := .optional rfl (.satisfy _ _)
  have forward : Forward (char 'é').optional := composed_forward maybe
  have laws := derived_unfold (char 'é').optional forward (char '[') (char 'é') (char ']') (char 'é')
  have taken : Succeeds (char 'é').optional (Cursor.start "éx") (some 'é') ⟨"éx",2,['x']⟩ := by decide +kernel
  have stays : Succeeds (char 'é').optional ⟨"éx",2,['x']⟩ none ⟨"éx",2,['x']⟩ := by decide +kernel
  have repetition : Fails (char 'é').optional.many1 (Cursor.start "éx") ⟨⟨.noProgress,⟨"éx",2⟩⟩,true⟩ :=
    many1_fails.mpr (.inr ⟨_,_,taken,[],_,.nil,.inr ⟨⟨none,_,stays,by decide⟩,rfl⟩⟩)
  have alone : Fails (char 'é').optional.many ⟨"éx",2,['x']⟩ ⟨⟨.noProgress,⟨"éx",2⟩⟩,false⟩ :=
    many_fails.mpr ⟨[],_,.nil,.inr ⟨⟨none,_,stays,by decide⟩,rfl⟩⟩
  have bracketed : Fails (between (char '[') (char 'é') (char ']')) (Cursor.start "[éx")
      ⟨⟨.unexpected "']'" "'x'",⟨"[éx",3⟩⟩,true⟩ := by decide +kernel
  have leftover : Fails ((char 'é').left eof) (Cursor.start "éx") ⟨⟨.trailing 'x',⟨"éx",2⟩⟩,true⟩ := by decide +kernel
  refine ⟨forward,repetition,alone,?_,bracketed,?_,?_⟩
  · unfold Fails at repetition ⊢
    rw [← laws.1 .start]
    exact repetition
  · unfold Fails at bracketed ⊢
    rw [← laws.2.1 .start]
    exact bracketed
  · unfold Fails at leftover
    rw [laws.2.2,leftover]
    rfl

end Parser

end CommittedParsing
