import CommittedParsing.Number.Literal
import CommittedParsing.Proofs.Lexeme

namespace CommittedParsing

namespace Lexeme

open Cursor CommittedParsing.Parser

variable {source : String} {cursor : Cursor} {digits after : List Char}

def leadingDigits (text : List Char) : List Char := text.takeWhile Char.isDigit

theorem decimal_absent (stops : Stops Char.isDigit cursor.rest) :
    Fails decimal cursor (.clean (absent "digit" cursor.rest) cursor.location) :=
  tryMap_fails.mpr (.inl (run1_absent stops))

section Digits

variable (reached : Reached source cursor) (ahead : cursor.rest = digits ++ after) (run : Run Char.isDigit digits)
  (stops : Stops Char.isDigit after)

include reached ahead run stops

theorem decimal_fits (below : Decimal.value digits < decimalLimit) :
    ∃ stop, cursor.Reads digits stop ∧ Succeeds decimal cursor (Decimal.value digits) stop := by
  obtain ⟨stop,passed,_,ran⟩ := accepts_front decimal_accepts reached ahead ⟨run,rfl,below,stops⟩
  exact ⟨stop,passed,ran⟩

theorem decimal_exceeds (above : decimalLimit ≤ Decimal.value digits) : Fails decimal cursor
    ⟨⟨.rejected ("number too large: " ++ String.ofList digits),cursor.location⟩,true⟩ := by
  obtain ⟨stop,passed,ran⟩ := run1_reads reached ahead run stops
  have further : cursor.position < stop.position := (reads_further passed).mpr run.1
  refine tryMap_fails.mpr (.inr ⟨digits,stop,_,ran,checkDecimal_above run.2 above,?_⟩)
  simp [Failure.consumedIf,Failure.clean,further]

end Digits

-- A number is read exactly if there are digits and their value is below the limit; then it is that value, behind all of
-- them. Without digits nothing is consumed, and too large a value is reported with its digits.
theorem decimal_bounded (source : String) (cursor : Cursor) (reached : Reached source cursor) :
    ((∃ n stop, Succeeds decimal cursor n stop) ↔
      leadingDigits cursor.rest ≠ [] ∧ Decimal.value (leadingDigits cursor.rest) < Nat.pow 2 128) ∧
    (∀ n stop, Succeeds decimal cursor n stop →
      n = Decimal.value (leadingDigits cursor.rest) ∧ cursor.Reads (leadingDigits cursor.rest) stop) ∧
    (leadingDigits cursor.rest = [] →
      Fails decimal cursor ⟨⟨absent "digit" cursor.rest,cursor.location⟩,false⟩) ∧
    (leadingDigits cursor.rest ≠ [] → Nat.pow 2 128 ≤ Decimal.value (leadingDigits cursor.rest) →
      Fails decimal cursor ⟨⟨.rejected ("number too large: " ++ String.ofList (leadingDigits cursor.rest)),
        cursor.location⟩,true⟩) := by
  obtain ⟨digits,after,ahead,all,stops⟩ := run_split Char.isDigit cursor.rest
  have leading : leadingDigits cursor.rest = digits := by
    rw [ahead]
    exact run_takeWhile all stops
  rw [leading]
  have missing (empty : digits = []) : Fails decimal cursor (.clean (absent "digit" cursor.rest) cursor.location) := by
    refine decimal_absent ?_
    rw [ahead,empty]
    exact stops
  have exceeds (nonempty : digits ≠ []) (above : decimalLimit ≤ Decimal.value digits) :=
    decimal_exceeds reached ahead ⟨nonempty,all⟩ stops above
  have succeeds := succeeds_exactly (fun good : digits ≠ [] ∧ Decimal.value digits < decimalLimit =>
    decimal_fits reached ahead ⟨good.1,all⟩ stops good.2) fun bad => by
      by_cases empty : digits = []
      · exact ⟨_,missing empty⟩
      · exact ⟨_,exceeds empty (Nat.le_of_not_lt fun below => bad ⟨empty,below⟩)⟩
  exact ⟨succeeds.1,succeeds.2,missing,exceeds⟩

theorem largest_decimal_bounded :
    Reached "é0340282366920938463463374607431768211455;"
      ⟨"é0340282366920938463463374607431768211455;",2,"0340282366920938463463374607431768211455;".toList⟩ ∧
    Succeeds decimal ⟨"é0340282366920938463463374607431768211455;",2,"0340282366920938463463374607431768211455;".toList⟩
      340282366920938463463374607431768211455 ⟨"é0340282366920938463463374607431768211455;",42,[';']⟩ ∧
    Fails decimal (Cursor.start "0340282366920938463463374607431768211456;")
      ⟨⟨.rejected "number too large: 0340282366920938463463374607431768211456",
        ⟨"0340282366920938463463374607431768211456;",0⟩⟩,true⟩ ∧
    Fails decimal (Cursor.start ";") ⟨⟨.unexpected "digit" "';'",⟨";",0⟩⟩,false⟩ := by
  have reached : Reached "é0340282366920938463463374607431768211455;"
      ⟨"é0340282366920938463463374607431768211455;",2,"0340282366920938463463374607431768211455;".toList⟩ :=
    .advance .start ((advance_exact _ 'é' _).mpr (by decide +kernel))
  have largest := decimal_bounded _ _ reached
  have larger := decimal_bounded "0340282366920938463463374607431768211456;" _ .start
  have other := decimal_bounded ";" _ .start
  obtain ⟨n,stop,ran⟩ := largest.1.mpr ⟨by decide +kernel,by decide +kernel⟩
  obtain ⟨value,passed⟩ := largest.2.1 n stop ran
  have there : Reads ⟨"é0340282366920938463463374607431768211455;",2,"0340282366920938463463374607431768211455;".toList⟩
      "0340282366920938463463374607431768211455".toList ⟨"é0340282366920938463463374607431768211455;",42,[';']⟩ :=
    ⟨rfl,by decide +kernel,by decide +kernel⟩
  obtain ⟨_,rfl⟩ := reads_unique passed there (passed.2.2.trans (by decide +kernel))
  have number : n = 340282366920938463463374607431768211455 := value.trans (by decide +kernel)
  exact ⟨reached,number ▸ ran,larger.2.2.2 (by decide +kernel) (by decide +kernel),other.2.2.1 (by decide +kernel)⟩

end Lexeme

namespace Literal

open Cursor CommittedParsing.Parser Lexeme

variable {source : String} {cursor place : Cursor} {digits after : List Char} {mark : Option Char}

def leadingSign (text : List Char) : List Char := if text.head? = some '-' then ['-'] else []

def signedDigits (text : List Char) : List Char := leadingDigits (text.drop (leadingSign text).length)

def signedValue (text : List Char) : Int :=
  if leadingSign text = [] then Decimal.value (signedDigits text) else -Decimal.value (signedDigits text)

abbrev InRange (value : Int) : Prop := -Nat.pow 2 127 ≤ value ∧ value ≤ Nat.pow 2 127 - 1

theorem sign_reads (cursor : Cursor) : ∃ mark place, cursor.Reads (leadingSign cursor.rest) place ∧
    Succeeds (optional (char '-')) cursor mark place ∧ (mark.isSome = true ↔ leadingSign cursor.rest ≠ []) := by
  by_cases found : cursor.rest.head? = some '-'
  · have sign : leadingSign cursor.rest = ['-'] := if_pos found
    obtain ⟨rest,ahead⟩ : ∃ rest, cursor.rest = ['-'] ++ rest := List.head?_eq_some_iff.mp found
    obtain ⟨place,passed,_⟩ := reads_front ahead
    have ran : Succeeds (char '-') cursor '-' place := satisfy_succeeds.mpr ⟨passed,rfl⟩
    rw [sign]
    exact ⟨some '-',place,passed,optional_succeeds.mpr (.inl ⟨'-',ran,rfl⟩),by simp⟩
  · have sign : leadingSign cursor.rest = [] := if_neg found
    have stops : Stops (· == '-') cursor.rest := by
      intro c first
      exact beq_eq_false_iff_ne.mpr fun same => found (same ▸ first)
    rw [sign]
    exact ⟨none,cursor,reads_refl cursor,optional_succeeds.mpr (.inr ⟨⟨_,satisfy_absent stops⟩,rfl,rfl⟩),by simp⟩

theorem signedDigits_behind (passed : cursor.Reads (leadingSign cursor.rest) place) :
    signedDigits cursor.rest = leadingDigits place.rest :=
  congrArg leadingDigits ((congrArg (List.drop _) passed.2.1).trans List.drop_left)

theorem signedValue_marked (marked : mark.isSome = true ↔ leadingSign cursor.rest ≠ []) :
    (if mark.isSome then -(Decimal.value (signedDigits cursor.rest) : Int)
      else Decimal.value (signedDigits cursor.rest)) = signedValue cursor.rest := by
  rw [signedValue]
  by_cases sign : leadingSign cursor.rest = []
  · rw [if_pos sign,if_neg (mt marked.mp (not_not_intro sign))]
  · rw [if_neg sign,if_pos (marked.mpr sign)]

section Range

variable {n : Nat} {value : Int} (made : (if mark.isSome then -(n : Int) else n) = value)

include made

theorem checkSigned_inside (inside : InRange value) : checkSigned (mark,n) = .ok value := by
  simp only [checkSigned,signedLimit,made]
  exact if_pos ⟨inside.1,by omega⟩

theorem checkSigned_outside (outside : ¬ InRange value) :
    checkSigned (mark,n) = .error ("integer out of range: " ++ n.repr) := by
  simp only [checkSigned,signedLimit,made]
  exact if_neg (by omega)

-- A number in the range of signed ones is never refused for its digits.
theorem inside_below (inside : InRange value) : n < decimalLimit := by
  have wider : Nat.pow 2 127 < decimalLimit := by decide
  split at made <;> omega

end Range

section Behind

variable {read : List Char} {failed : Failure} (passed : cursor.Reads read place)
  (ran : Succeeds (optional (char '-')) cursor mark place)

include passed ran

theorem signedInteger_misses (missed : Fails decimal place failed) :
    Fails signedInteger cursor (failed.consumedIf (decide (read ≠ []))) := by
  have advanced : decide (cursor.position < place.position) = decide (read ≠ []) := decide_eq_decide.mpr (reads_further passed)
  rw [← advanced]
  exact tryMap_fails.mpr (.inl (pair_fails.mpr (.inr ⟨mark,place,failed,ran,missed,rfl⟩)))

theorem signedInteger_takes {stop : Cursor} {n : Nat} {value : Int} (further : place.Reads digits stop)
    (found : Succeeds decimal place n stop) (checked : checkSigned (mark,n) = .ok value) :
    cursor.Reads (read ++ digits) stop ∧ Succeeds signedInteger cursor value stop :=
  ⟨reads_trans passed further,tryMap_succeeds.mpr ⟨(mark,n),pair_succeeds.mpr ⟨place,ran,found⟩,checked⟩⟩

theorem signedInteger_refuses {stop : Cursor} {n : Nat} {message : String} (further : place.Reads digits stop)
    (nonempty : digits ≠ []) (found : Succeeds decimal place n stop) (checked : checkSigned (mark,n) = .error message) :
    Fails signedInteger cursor ⟨⟨.rejected message,cursor.location⟩,true⟩ := by
  have some : read ++ digits ≠ [] := fun empty => nonempty (List.append_eq_nil_iff.mp empty).2
  have advanced : cursor.position < stop.position := (reads_further (reads_trans passed further)).mpr some
  refine tryMap_fails.mpr (.inr ⟨(mark,n),stop,message,pair_succeeds.mpr ⟨place,ran,found⟩,checked,?_⟩)
  simp [Failure.consumedIf,Failure.clean,advanced]

end Behind

-- A signed number is read exactly if there are digits behind the sign and the value with its sign is in the range of 128
-- bits; then it is that value, behind all of them. Missing digits are reported behind the sign, which commits them. A
-- number that is too large even without its sign is reported where its digits begin, and any other one where the sign does.
theorem signedInteger_bounded (source : String) (cursor : Cursor) (reached : Reached source cursor) :
    ∃ place, cursor.Reads (leadingSign cursor.rest) place ∧
    ((∃ n stop, Succeeds signedInteger cursor n stop) ↔
      signedDigits cursor.rest ≠ [] ∧ InRange (signedValue cursor.rest)) ∧
    (∀ n stop, Succeeds signedInteger cursor n stop → n = signedValue cursor.rest ∧
      cursor.Reads (leadingSign cursor.rest ++ signedDigits cursor.rest) stop) ∧
    (signedDigits cursor.rest = [] → Fails signedInteger cursor
      ⟨⟨absent "digit" place.rest,place.location⟩,decide (leadingSign cursor.rest ≠ [])⟩) ∧
    (signedDigits cursor.rest ≠ [] → ¬ InRange (signedValue cursor.rest) →
      if Decimal.value (signedDigits cursor.rest) < Nat.pow 2 128 then
        Fails signedInteger cursor ⟨⟨.rejected ("integer out of range: " ++
          (Decimal.value (signedDigits cursor.rest)).repr),cursor.location⟩,true⟩
      else Fails signedInteger cursor ⟨⟨.rejected ("number too large: " ++
        String.ofList (signedDigits cursor.rest)),place.location⟩,true⟩) := by
  obtain ⟨mark,place,passed,ran,marked⟩ := sign_reads cursor
  have value := signedValue_marked marked
  have leading := signedDigits_behind passed
  obtain ⟨digits,after,ahead,all,stops⟩ := run_split Char.isDigit place.rest
  have run : signedDigits cursor.rest = digits := by
    rw [leading,ahead]
    exact run_takeWhile all stops
  rw [run] at value ⊢
  have inside := reads_reached reached passed
  have missing (empty : digits = []) : Fails signedInteger cursor
      ⟨⟨absent "digit" place.rest,place.location⟩,decide (leadingSign cursor.rest ≠ [])⟩ := by
    have nothing : Stops Char.isDigit place.rest := by
      rw [ahead,empty]
      exact stops
    have missed := signedInteger_misses passed ran (decimal_absent nothing)
    rwa [Failure.consumedIf,Failure.clean,Bool.false_or] at missed
  have refuses (nonempty : digits ≠ []) (outside : ¬ InRange (signedValue cursor.rest)) :
      if Decimal.value digits < Nat.pow 2 128 then Fails signedInteger cursor
        ⟨⟨.rejected ("integer out of range: " ++ (Decimal.value digits).repr),cursor.location⟩,true⟩
      else Fails signedInteger cursor
        ⟨⟨.rejected ("number too large: " ++ String.ofList digits),place.location⟩,true⟩ := by
    -- Only a number that fits without its sign comes to the check, which is located where the sign is.
    split
    next below =>
      obtain ⟨stop,further,found⟩ := decimal_fits inside ahead ⟨nonempty,all⟩ stops below
      exact signedInteger_refuses passed ran further nonempty found (checkSigned_outside value outside)
    next above =>
      exact signedInteger_misses passed ran (decimal_exceeds inside ahead ⟨nonempty,all⟩ stops (Nat.le_of_not_lt above))
  have takes (good : digits ≠ [] ∧ InRange (signedValue cursor.rest)) :
      ∃ stop, cursor.Reads (leadingSign cursor.rest ++ digits) stop ∧
        Succeeds signedInteger cursor (signedValue cursor.rest) stop := by
    have below := inside_below value good.2
    obtain ⟨stop,further,found⟩ := decimal_fits inside ahead ⟨good.1,all⟩ stops below
    exact ⟨stop,signedInteger_takes passed ran further found (checkSigned_inside value good.2)⟩
  have succeeds := succeeds_exactly takes fun bad => by
    by_cases empty : digits = []
    · exact ⟨_,missing empty⟩
    · have refused := refuses empty fun within => bad ⟨empty,within⟩
      split at refused <;> exact ⟨_,refused⟩
  exact ⟨place,passed,succeeds.1,succeeds.2,missing,refuses⟩

theorem least_signed_bounded :
    Reached "é-170141183460469231731687303715884105728;"
      ⟨"é-170141183460469231731687303715884105728;",2,"-170141183460469231731687303715884105728;".toList⟩ ∧
    Succeeds signedInteger
      ⟨"é-170141183460469231731687303715884105728;",2,"-170141183460469231731687303715884105728;".toList⟩
      (-170141183460469231731687303715884105728) ⟨"é-170141183460469231731687303715884105728;",42,[';']⟩ ∧
    Fails signedInteger (Cursor.start "170141183460469231731687303715884105728")
      ⟨⟨.rejected "integer out of range: 170141183460469231731687303715884105728",
        ⟨"170141183460469231731687303715884105728",0⟩⟩,true⟩ ∧
    Fails signedInteger (Cursor.start "-340282366920938463463374607431768211456")
      ⟨⟨.rejected "number too large: 340282366920938463463374607431768211456",
        ⟨"-340282366920938463463374607431768211456",1⟩⟩,true⟩ ∧
    Fails signedInteger (Cursor.start "-x") ⟨⟨.unexpected "digit" "'x'",⟨"-x",1⟩⟩,true⟩ := by
  have reached : Reached "é-170141183460469231731687303715884105728;"
      ⟨"é-170141183460469231731687303715884105728;",2,"-170141183460469231731687303715884105728;".toList⟩ :=
    .advance .start ((advance_exact _ 'é' _).mpr (by decide +kernel))
  obtain ⟨_,_,least,exactly,_⟩ := signedInteger_bounded _ _ reached
  obtain ⟨_,_,_,_,_,positive⟩ := signedInteger_bounded "170141183460469231731687303715884105728" _ .start
  obtain ⟨behind,passed,_,_,_,larger⟩ := signedInteger_bounded "-340282366920938463463374607431768211456" _ .start
  obtain ⟨place,sign,_,_,lone,_⟩ := signedInteger_bounded "-x" _ .start
  obtain ⟨n,stop,ran⟩ := least.mpr (by decide +kernel)
  obtain ⟨value,read⟩ := exactly n stop ran
  have there : Reads ⟨"é-170141183460469231731687303715884105728;",2,"-170141183460469231731687303715884105728;".toList⟩
      "-170141183460469231731687303715884105728".toList ⟨"é-170141183460469231731687303715884105728;",42,[';']⟩ :=
    ⟨rfl,by decide +kernel,by decide +kernel⟩
  obtain ⟨_,rfl⟩ := reads_unique read there (read.2.2.trans (by decide +kernel))
  have number : n = -170141183460469231731687303715884105728 := value.trans (by decide +kernel)
  have digits : Reads (Cursor.start "-340282366920938463463374607431768211456") ['-']
      ⟨"-340282366920938463463374607431768211456",1,"340282366920938463463374607431768211456".toList⟩ :=
    ⟨rfl,by decide +kernel,by decide +kernel⟩
  obtain ⟨_,rfl⟩ := reads_unique passed digits (passed.2.2.trans (by decide +kernel))
  have letter : Reads (Cursor.start "-x") ['-'] ⟨"-x",1,['x']⟩ := ⟨rfl,by decide +kernel,by decide +kernel⟩
  obtain ⟨_,rfl⟩ := reads_unique sign letter (sign.2.2.trans (by decide +kernel))
  exact ⟨reached,number ▸ ran,positive (by decide +kernel) (by decide +kernel),
    larger (by decide +kernel) (by decide +kernel),lone (by decide +kernel)⟩

end Literal

end CommittedParsing
