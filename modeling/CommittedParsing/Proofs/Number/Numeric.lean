import CommittedParsing.Proofs.Number.Fraction
import CommittedParsing.Proofs.Parser.Exclusive

namespace CommittedParsing.Literal

open Cursor CommittedParsing.Parser CommittedParsing.Lexeme

variable {source : String} {cursor stop : Cursor} {whole places after : List Char}

def signText (negative : Bool) : List Char := if negative then ['-'] else []

def Pointed (x : Binary64) (read : List Char) : Prop :=
  ∃ negative whole places, read = signText negative ++ (whole ++ '.' :: places) ∧ Run Char.isDigit whole ∧
    Run Char.isDigit places ∧ x = .ofDecimal negative (Decimal.value (whole ++ places)) places.length

section Reading

theorem run_unsigned (run : Run Char.isDigit whole) : ∃ c rest, whole = c :: rest ∧ c ≠ '-' := by
  obtain ⟨c,rest,rfl⟩ := List.exists_cons_of_ne_nil run.1
  refine ⟨c,rest,rfl,?_⟩
  rintro rfl
  exact absurd (run.2 '-' List.mem_cons_self) (by decide)

theorem ofPointed?_exact (negative : Bool) (run : Run Char.isDigit whole) (also : Run Char.isDigit places) :
    ofPointed? negative (whole ++ '.' :: places) =
      some (.ofDecimal negative (Decimal.value (whole ++ places)) places.length) := by
  have point : Stops Char.isDigit ('.' :: places) := stops_cons.mpr rfl
  have front := run_takeWhile run.2 point
  have back : (whole ++ '.' :: places).dropWhile Char.isDigit = '.' :: places := by
    rw [List.dropWhile_append_of_pos run.2]
    exact List.dropWhile_cons_of_neg (by decide)
  simp only [ofPointed?,front,back]
  exact if_pos ⟨run.1,also.1,List.all_eq_true.mpr also.2⟩

theorem ofText?_pointed (negative : Bool) (run : Run Char.isDigit whole) (also : Run Char.isDigit places) :
    ofText? (signText negative ++ (whole ++ '.' :: places)) =
      some (.ofDecimal negative (Decimal.value (whole ++ places)) places.length) := by
  cases negative with
  | true => exact ofPointed?_exact true run also
  | false =>
      obtain ⟨c,rest,rfl,digit⟩ := run_unsigned run
      have unsigned : ofText? (c :: (rest ++ '.' :: places)) = ofPointed? false (c :: (rest ++ '.' :: places)) := by
        unfold ofText?
        split
        · next same => exact absurd (List.cons.inj same).1 digit
        · rfl
      exact unsigned.trans (ofPointed?_exact false run also)

theorem readFloat_pointed {x : Binary64} {read : List Char} (pointed : Pointed x read) :
    readFloat (String.ofList read) = .ok x := by
  obtain ⟨negative,whole,places,rfl,run,also,rfl⟩ := pointed
  rw [readFloat,String.toList_ofList,ofText?_pointed negative run also]

end Reading

section Matching

theorem sign_accepts : Accepts (optional (char '-')) fun mark read after =>
    (read = ['-'] ∧ mark = some '-') ∨ Stops (· == '-') after ∧ read = [] ∧ mark = none := by
  refine accepts_congr (optional_accepts (char_accepts '-') fun _ _ reached => satisfy_misses _ _ reached)
    fun mark read after => ?_
  constructor
  · intro accepted
    rcases accepted with ⟨_,⟨rfl,rfl⟩,rfl⟩ | ⟨stops,rfl,rfl⟩
    · exact .inl ⟨rfl,rfl⟩
    · exact .inr ⟨stops,rfl,rfl⟩
  · intro spelled
    rcases spelled with ⟨rfl,rfl⟩ | ⟨stops,rfl,rfl⟩
    · exact .inl ⟨'-',⟨rfl,rfl⟩,rfl⟩
    · exact .inr ⟨stops,rfl,rfl⟩

theorem floatText_accepts : Accepts floatText fun text read after =>
    (∃ x, Pointed x read) ∧ Stops Char.isDigit after ∧ String.ofList read = text := by
  have digits : Accepts (many1 digit) _ := run1_accepts
  have signed := pair_accepts sign_accepts digits
  have pointed := pair_accepts (pair_accepts signed (char_accepts '.')) digits
  refine accepts_congr (recognize_accepts pointed) fun text read after => ?_
  constructor
  · intro accepted
    obtain ⟨⟨_,_,places,rfl,⟨_,_,rfl,⟨mark,whole,rfl,sign,_,run,_⟩,rfl,_⟩,_,also,stops⟩,made⟩ := accepted
    refine ⟨?_,stops,made⟩
    rcases sign with ⟨rfl,_⟩ | ⟨_,rfl,_⟩
    · exact ⟨_,true,whole,places,by simp [signText],run,also,rfl⟩
    · exact ⟨_,false,whole,places,by simp [signText],run,also,rfl⟩
  · intro spelled
    obtain ⟨⟨x,negative,whole,places,rfl,run,also,_⟩,stops,made⟩ := spelled
    have apart : Stops Char.isDigit ('.' :: (places ++ after)) := stops_cons.mpr rfl
    refine ⟨⟨(((if negative then some '-' else none,whole),'.'),places),signText negative ++ whole ++ ['.'],places,
      by simp,⟨signText negative ++ whole,['.'],rfl,⟨signText negative,whole,rfl,?_,rfl,run,apart⟩,rfl,rfl⟩,
      rfl,also,stops⟩,made⟩
    cases negative with
    | true => exact .inl ⟨rfl,rfl⟩
    | false =>
        obtain ⟨c,rest,rfl,digit⟩ := run_unsigned run
        exact .inr ⟨stops_cons.mpr (beq_eq_false_iff_ne.mpr digit),rfl,rfl⟩

theorem float_accepts : Accepts float fun x read after => Pointed x read ∧ Stops Char.isDigit after := by
  refine accepts_congr (tryMap_accepts readFloat floatText_accepts) fun x read after => ?_
  constructor
  · intro accepted
    obtain ⟨_,⟨⟨other,pointed⟩,stops,rfl⟩,made⟩ := accepted
    obtain rfl := Except.ok.inj ((readFloat_pointed pointed).symm.trans made)
    exact ⟨pointed,stops⟩
  · intro spelled
    obtain ⟨pointed,stops⟩ := spelled
    exact ⟨_,⟨⟨x,pointed⟩,stops,rfl⟩,readFloat_pointed pointed⟩

theorem float_reads (reached : Reached source cursor) {negative : Bool} {c : Char} {more : List Char}
    (ahead : cursor.rest = signText negative ++ (whole ++ '.' :: c :: more)) (run : Run Char.isDigit whole)
    (digit : c.isDigit = true) : ∃ x stop, Succeeds float cursor x stop := by
  obtain ⟨digits,after,cut,all,stops⟩ := run_split Char.isDigit more
  have front : cursor.rest = (signText negative ++ (whole ++ '.' :: c :: digits)) ++ after := by
    rw [ahead,cut]
    simp
  have also : Run Char.isDigit (c :: digits) := ⟨List.cons_ne_nil _ _,List.forall_mem_cons.mpr ⟨digit,all⟩⟩
  have pointed : Pointed _ (signText negative ++ (whole ++ '.' :: c :: digits)) := ⟨negative,whole,c :: digits,rfl,run,also,rfl⟩
  obtain ⟨stop,_,_,ran⟩ := accepts_front float_accepts reached front ⟨pointed,stops⟩
  exact ⟨_,stop,ran⟩

end Matching

section Failing

abbrev Telling : FailureLanguage := fun _ cause after => Tells cause after

theorem floatText_halts : Halts floatText Telling := by
  have sign : Halts (optional (char '-')) Telling := halts_mono (optional_halts _) False.elim
  have digits : Accepts (many1 digit) _ := run1_accepts
  have run : Halts (many1 digit) Telling := halts_mono run1_halts fun missing => missing.2.2
  have point : Halts (char '.') Telling := halts_mono (satisfy_halts _ _) fun missing => missing.2.2
  have signed := pair_accepts sign_accepts digits
  have front := pair_because signed (pair_because sign_accepts sign run) point
  exact recognize_halts (pair_because (pair_accepts signed (char_accepts '.')) front run)

theorem float_telling : Halts float Telling := by
  refine halts_mono (tryMap_halts readFloat floatText_accepts floatText_halts) ?_
  intro read cause after halted
  rcases halted with tells | ⟨_,_,_,_,_,_,⟨⟨x,pointed⟩,_,rfl⟩,refused,_⟩
  · exact tells
  · rw [readFloat_pointed pointed] at refused
    cases refused

end Failing

-- Behind the same digits there is either a point or a slash.
theorem float_exclusive (reached : Reached source cursor) : Exclusive float fraction cursor := by
  intro x stop f last ran also
  obtain ⟨_,passed,⟨negative,whole,places,rfl,run,_⟩,_⟩ := (float_accepts reached).mp ran
  obtain ⟨_,further,⟨above,below,rfl,⟨digits,_⟩,_⟩,_⟩ := (fraction_accepts reached).mp also
  have same := passed.2.1.symm.trans further.2.1
  simp only [List.append_assoc,List.cons_append] at same
  cases negative with
  | true =>
      obtain ⟨c,rest,rfl,digit⟩ := run_unsigned digits
      exact absurd (List.cons.inj same).1.symm digit
  | false =>
      have point : (whole ++ '.' :: (places ++ stop.rest)).takeWhile Char.isDigit = whole :=
        run_takeWhile run.2 (stops_cons.mpr rfl)
      have slash : (above ++ '/' :: (below ++ last.rest)).takeWhile Char.isDigit = above :=
        run_takeWhile digits.2 (stops_cons.mpr rfl)
      have equal : whole = above := by
        rw [← point,← slash]
        exact congrArg _ same
      subst equal
      exact absurd (List.cons.inj (List.append_cancel_left same)).1 (by decide)

-- A literal and a fraction are never both there. A literal is there exactly if digits, with a sign before them or not, have a
-- point and a digit behind them; it takes all digits up to where they stop, and it is never refused for its value. The
-- choice has the value of the one that is there, in either order, and where there is none it fails as the fraction does.
theorem numeric_chooses (source : String) (cursor : Cursor) (reached : Reached source cursor) :
    (¬ ((∃ x stop, Succeeds float cursor x stop) ∧ ∃ f stop, Succeeds fraction cursor f stop)) ∧
    ((∃ x stop, Succeeds float cursor x stop) ↔ ∃ negative whole c more,
      cursor.rest = signText negative ++ (whole ++ '.' :: c :: more) ∧ Run Char.isDigit whole ∧ c.isDigit = true) ∧
    (∀ x stop, Succeeds float cursor x stop → ∃ negative whole places,
      cursor.Reads (signText negative ++ (whole ++ '.' :: places)) stop ∧ Run Char.isDigit whole ∧
      Run Char.isDigit places ∧ Stops Char.isDigit stop.rest ∧
      x = .ofDecimal negative (Decimal.value (whole ++ places)) places.length) ∧
    (∀ failed message, Fails float cursor failed → failed.fault.cause ≠ .rejected message) ∧
    (∀ value stop, Succeeds numeric cursor value stop ↔ (∃ x, Succeeds float cursor x stop ∧ .float x = value) ∨
      ∃ f, Succeeds fraction cursor f stop ∧ .fraction f = value) ∧
    (∀ value stop, Succeeds ((fraction.map .fraction).attempt.orElse (float.map .float).attempt) cursor value stop ↔
      Succeeds numeric cursor value stop) ∧
    ∀ failed, Fails numeric cursor failed ↔ (∃ missed, Fails float cursor missed) ∧ Fails fraction cursor failed := by
  have exclusive := float_exclusive reached
  have mapped : Exclusive (float.map Numeric.float) (fraction.map Numeric.fraction) cursor := exclusive_map _ _ exclusive
  refine ⟨?_,?_,?_,?_,?_,fun value stop => exclusive_swaps mapped,?_⟩
  · rintro ⟨⟨x,stop,ran⟩,f,last,also⟩
    exact exclusive x stop f last ran also
  · constructor
    · intro found
      obtain ⟨x,stop,ran⟩ := found
      obtain ⟨_,passed,⟨negative,whole,places,rfl,run,also,_⟩,_⟩ := (float_accepts reached).mp ran
      obtain ⟨c,more,rfl⟩ := List.exists_cons_of_ne_nil also.1
      refine ⟨negative,whole,c,more ++ stop.rest,?_,run,also.2 c List.mem_cons_self⟩
      rw [passed.2.1]
      simp
    · intro written
      obtain ⟨negative,whole,c,more,ahead,run,digit⟩ := written
      exact float_reads reached ahead run digit
  · intro x stop ran
    obtain ⟨_,passed,⟨negative,whole,places,rfl,run,also,made⟩,stops⟩ := (float_accepts reached).mp ran
    exact ⟨negative,whole,places,passed,run,also,stops,made⟩
  · intro failed message missed
    obtain ⟨_,_,_,_,tells⟩ := float_telling reached missed
    exact tells_unrejected tells message
  · intro value stop
    exact (exclusive_orElse mapped).trans (or_congr map_succeeds map_succeeds)
  · intro failed
    refine attempt_orElse_fails.trans ?_
    simp only [map_fails]

-- A literal with a sign behind a character of two bytes, which ends before the second point; a fraction, also when it is
-- tried first; and a fraction with a sign, which is neither.
theorem signed_literal_chooses :
    Reached "é-1.50.5" ⟨"é-1.50.5",2,"-1.50.5".toList⟩ ∧
    Succeeds numeric ⟨"é-1.50.5",2,"-1.50.5".toList⟩ (.float ⟨true,4609434218613702656⟩) ⟨"é-1.50.5",7,['.','5']⟩ ∧
    Succeeds ((fraction.map Numeric.fraction).attempt.orElse (float.map .float).attempt) (Cursor.start "12/5.5")
      (.fraction ⟨12,5,by decide⟩) ⟨"12/5.5",4,['.','5']⟩ ∧
    Fails numeric (Cursor.start "-1/2") ⟨⟨.unexpected "digit" "'-'",⟨"-1/2",0⟩⟩,false⟩ := by
  have reached : Reached "é-1.50.5" ⟨"é-1.50.5",2,"-1.50.5".toList⟩ :=
    .advance .start ((advance_exact _ 'é' _).mpr (by decide +kernel))
  obtain ⟨_,_,_,_,literal,_⟩ := numeric_chooses _ _ reached
  obtain ⟨_,_,_,_,either,swapped,_⟩ := numeric_chooses "12/5.5" _ .start
  obtain ⟨_,_,_,_,_,_,neither⟩ := numeric_chooses "-1/2" _ .start
  refine ⟨reached,(literal _ _).mpr (.inl ⟨_,by decide +kernel,rfl⟩),?_,(neither _).mpr ⟨?_,by decide +kernel⟩⟩
  · exact (swapped _ _).mpr ((either _ _).mpr (.inr ⟨_,by decide +kernel,rfl⟩))
  · exact ⟨⟨⟨.unexpected "'.'" "'/'",⟨"-1/2",2⟩⟩,true⟩,by decide +kernel⟩

end CommittedParsing.Literal
