import CommittedParsing.Number.Literal
import CommittedParsing.Proofs.Lexeme
import CommittedParsing.Proofs.Parser.Complete

namespace CommittedParsing

open Cursor CommittedParsing.Parser CommittedParsing.Lexeme

def Lexeme.Numeral (n : Nat) (read : List Char) : Prop :=
  Run Char.isDigit read ∧ Decimal.value read = n ∧ n < decimalLimit

def Fraction.Spelled (f : Fraction) (read : List Char) : Prop :=
  ∃ above below, read = above ++ '/' :: below ∧ Numeral f.numerator above ∧ Numeral f.denominator below

namespace Literal

variable {source : String} {cursor : Cursor} {above below after : List Char}

theorem checkFraction_exact (parts : Nat × Nat) (f : Fraction) :
    checkFraction parts = .ok f ↔ parts = (f.numerator,f.denominator) := by
  obtain ⟨numerator,denominator⟩ := parts
  unfold checkFraction Fraction.of?
  by_cases nonzero : denominator ≠ 0
  · rw [dif_pos nonzero]
    cases f
    simp only [Except.ok.injEq,Fraction.mk.injEq,Prod.mk.injEq]
  · rw [dif_neg nonzero]
    simp only [reduceCtorEq,Prod.mk.injEq,false_iff,not_and]
    intro _ same
    exact nonzero (same ▸ f.nonzero)

theorem checkFraction_refuses {parts : Nat × Nat} {message : String} (refused : checkFraction parts = .error message) :
    message = "division by zero: denominator is 0" := by
  unfold checkFraction at refused
  cases made : Fraction.of? parts.1 parts.2 with
  | some f =>
      rw [made] at refused
      cases refused
  | none =>
      rw [made] at refused
      cases refused
      rfl

theorem parts_accepts : Accepts ((decimal.left (char '/')).pair decimal) fun parts read after =>
    ∃ above below, read = above ++ '/' :: below ∧ Numeral parts.1 above ∧ Numeral parts.2 below ∧
      Stops Char.isDigit after := by
  have slash := left_accepts decimal_accepts (char_accepts '/')
  refine accepts_congr (pair_accepts slash decimal_accepts) fun parts read after => ?_
  constructor
  · intro accepted
    obtain ⟨_,below,rfl,⟨above,_,rfl,⟨run,value,fits,_⟩,_,rfl,_⟩,lower,denotes,limited,stops⟩ := accepted
    exact ⟨above,below,by simp,⟨run,value,fits⟩,⟨lower,denotes,limited⟩,stops⟩
  · intro spelled
    obtain ⟨above,below,rfl,⟨run,value,fits⟩,⟨lower,denotes,limited⟩,stops⟩ := spelled
    have apart : Stops Char.isDigit ('/' :: (below ++ after)) := stops_cons.mpr rfl
    exact ⟨above ++ ['/'],below,by simp,⟨above,['/'],rfl,⟨run,value,fits,apart⟩,'/',rfl,rfl⟩,lower,denotes,limited,stops⟩

theorem fraction_accepts : Accepts fraction fun f read after => f.Spelled read ∧ Stops Char.isDigit after := by
  refine accepts_congr (tryMap_accepts checkFraction parts_accepts) fun f read after => ?_
  constructor
  · intro accepted
    obtain ⟨_,⟨above,below,cut,upper,lower,stops⟩,checked⟩ := accepted
    obtain rfl := (checkFraction_exact _ _).mp checked
    exact ⟨⟨above,below,cut,upper,lower⟩,stops⟩
  · intro spelled
    obtain ⟨⟨above,below,cut,upper,lower⟩,stops⟩ := spelled
    exact ⟨(f.numerator,f.denominator),⟨above,below,cut,upper,lower,stops⟩,(checkFraction_exact _ _).mpr rfl⟩

-- The whole fraction has been read by then, whatever comes after it.
theorem fraction_divides (reached : Reached source cursor) {n : Nat} (ahead : cursor.rest = above ++ '/' :: (below ++ after))
    (upper : Numeral n above) (lower : Numeral 0 below) (stops : Stops Char.isDigit after) :
    Fails fraction cursor ⟨⟨.rejected "division by zero: denominator is 0",cursor.location⟩,true⟩ := by
  have front : cursor.rest = (above ++ '/' :: below) ++ after := by
    rw [ahead,List.append_assoc,List.cons_append]
  obtain ⟨stop,passed,_,ran⟩ : ∃ stop, cursor.Reads (above ++ '/' :: below) stop ∧ stop.rest = after ∧
      Succeeds ((decimal.left (char '/')).pair decimal) cursor (n,0) stop :=
    accepts_front parts_accepts reached front ⟨above,below,rfl,upper,lower,stops⟩
  have further : cursor.position < stop.position := (reads_further passed).mpr (by simp)
  refine tryMap_fails.mpr (.inr ⟨(n,0),stop,_,ran,rfl,?_⟩)
  simp [Failure.consumedIf,Failure.clean,further]

end Literal

namespace Fraction

variable {above below : List Char}

theorem parse_spelled (text : String) (f : Fraction) : (parse text).result = .ok f ↔ f.Spelled text.toList := by
  refine (parseComplete_exact Literal.fraction_accepts text f).trans ?_
  exact and_iff_left stops_nil

theorem numeral_spell {n : Nat} (fits : n < decimalLimit) : Numeral n (Decimal.spell n) :=
  ⟨⟨Decimal.spell_nonempty n,Decimal.spell_digits n⟩,Decimal.value_spell n,fits⟩

theorem render_toList (f : Fraction) :
    f.render.toList = Decimal.spell f.numerator ++ '/' :: Decimal.spell f.denominator := by
  simp [render,Decimal.spell,Nat.repr]

theorem parse_render {f : Fraction} (upper : f.numerator < decimalLimit) (lower : f.denominator < decimalLimit) :
    (parse f.render).result = .ok f := by
  rw [parse_spelled,render_toList]
  exact ⟨_,_,rfl,numeral_spell upper,numeral_spell lower⟩

-- A text is read exactly if it is two runs of digits with a slash between, of which the second is not zero; the parts are
-- kept as they stand there, so that what was written is read back. Behind a zero denominator nothing else matters.
theorem parse_as_written :
    (∀ (text : String) (n d : Nat),
      (∃ f, (parse text).result = .ok f ∧ f.numerator = n ∧ f.denominator = d) ↔
        ∃ above below, text.toList = above ++ '/' :: below ∧ Run Char.isDigit above ∧ Run Char.isDigit below ∧
          Decimal.value above = n ∧ Decimal.value below = d ∧ n < Nat.pow 2 128 ∧ d < Nat.pow 2 128 ∧ d ≠ 0) ∧
    (∀ (n d : Nat) (nonzero : d ≠ 0), n < Nat.pow 2 128 → d < Nat.pow 2 128 →
      (parse (render ⟨n,d,nonzero⟩)).result = .ok ⟨n,d,nonzero⟩) ∧
    ∀ (text : String) (above below after : List Char), text.toList = above ++ '/' :: (below ++ after) →
      Run Char.isDigit above → Run Char.isDigit below → Stops Char.isDigit after →
      Decimal.value above < Nat.pow 2 128 → Decimal.value below = 0 →
      (parse text).result = .error ⟨⟨.rejected "division by zero: denominator is 0",⟨text,0⟩⟩,true⟩ := by
  refine ⟨?_,fun n d nonzero upper lower => parse_render upper lower,?_⟩
  · intro text n d
    constructor
    · intro found
      obtain ⟨f,ran,rfl,rfl⟩ := found
      obtain ⟨above,below,whole,⟨run,upper,fits⟩,⟨also,lower,limited⟩⟩ := (parse_spelled text f).mp ran
      exact ⟨above,below,whole,run,also,upper,lower,fits,limited,f.nonzero⟩
    · intro written
      obtain ⟨above,below,whole,run,also,upper,lower,fits,limited,nonzero⟩ := written
      exact ⟨⟨n,d,nonzero⟩,(parse_spelled text _).mpr ⟨above,below,whole,⟨run,upper,fits⟩,also,lower,limited⟩,rfl,rfl⟩
  · intro text above below after whole run also stops fits zero
    have upper : Numeral _ above := ⟨run,rfl,fits⟩
    have lower : Numeral 0 below := ⟨also,zero,by decide⟩
    have refused := Literal.fraction_divides .start whole upper lower stops
    exact parseComplete_error.mpr (map_fails.mpr (pair_fails.mpr (.inl refused)))

theorem largest_parts_as_written :
    (∃ f, (parse "00340282366920938463463374607431768211455/340282366920938463463374607431768211454").result = .ok f ∧
      f.numerator = 340282366920938463463374607431768211455 ∧ f.denominator = 340282366920938463463374607431768211454) ∧
    (parse (render ⟨340282366920938463463374607431768211455,10,by decide⟩)).result =
      .ok ⟨340282366920938463463374607431768211455,10,by decide⟩ ∧
    (parse "5/000x").result = .error ⟨⟨.rejected "division by zero: denominator is 0",⟨"5/000x",0⟩⟩,true⟩ := by
  obtain ⟨written,rendered,divided⟩ := parse_as_written
  refine ⟨(written _ _ _).mpr ?_,rendered _ _ _ (by decide +kernel) (by decide +kernel),?_⟩
  · exact ⟨"00340282366920938463463374607431768211455".toList,"340282366920938463463374607431768211454".toList,
      by decide +kernel⟩
  · exact divided _ ['5'] ['0','0','0'] ['x'] (by decide) (by decide) (by decide) (stops_cons.mpr rfl) (by decide) (by decide)

end Fraction

end CommittedParsing
