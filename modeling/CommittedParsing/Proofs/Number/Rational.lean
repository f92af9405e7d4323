import CommittedParsing.Number.Fraction

namespace CommittedParsing

-- Rounds of Euclid's loop from two numbers up to where the second one is zero, and the first one then.
inductive DivisorRun : Nat → Nat → Nat → Nat → Prop where
  | ended {a : Nat} : DivisorRun a 0 0 a
  | round {a b rounds result : Nat} : b ≠ 0 → DivisorRun b (a % b) rounds result → DivisorRun a b (rounds + 1) result

section Loop

variable {a b rounds result : Nat}

theorem round_gcd (a b : Nat) : Nat.gcd b (a % b) = Nat.gcd a b := by
  rw [Nat.gcd_comm a b,Nat.gcd_rec b a]
  exact Nat.gcd_comm _ _

theorem run_gcd (run : DivisorRun a b rounds result) : result = Nat.gcd a b := by
  induction run with
  | ended => exact (Nat.gcd_zero_right _).symm
  | round _ _ ih => exact ih.trans (round_gcd _ _)

theorem run_commonDivisor (run : DivisorRun a b rounds result) : commonDivisor a b = result := by
  rw [commonDivisor_gcd,run_gcd run]

-- Two rounds at least halve the second number.
theorem mod_halves (nonzero : a ≠ 0) (below : a < b) : 2 * (b % a) < b := by
  have once : 1 ≤ b / a := Nat.div_pos (Nat.le_of_lt below) (Nat.pos_of_ne_zero nonzero)
  have whole := Nat.div_add_mod b a
  have rest := Nat.mod_lt b (Nat.pos_of_ne_zero nonzero)
  have more : a * 1 ≤ a * (b / a) := Nat.mul_le_mul_left a once
  omega

theorem run_within (bits : Nat) (fits : b < Nat.pow 2 bits) : ∃ rounds result, rounds ≤ 2 * bits ∧ DivisorRun a b rounds result := by
  induction bits generalizing a b with
  | zero =>
      obtain rfl : b = 0 := Nat.lt_one_iff.mp fits
      exact ⟨0,a,Nat.le_refl _,.ended⟩
  | succ bits ih =>
      by_cases done : b = 0
      · subst done
        exact ⟨0,a,Nat.zero_le _,.ended⟩
      · have smaller := Nat.mod_lt a (Nat.pos_of_ne_zero done)
        by_cases next : a % b = 0
        · refine ⟨1,b,by omega,.round done ?_⟩
          rw [next]
          exact .ended
        · have half : b % (a % b) < Nat.pow 2 bits := by
            have halves := mod_halves next smaller
            have doubled : Nat.pow 2 (bits + 1) = Nat.pow 2 bits * 2 := rfl
            omega
          obtain ⟨rounds,result,few,run⟩ := ih (a := a % b) half
          exact ⟨rounds + 2,result,by omega,.round done (.round next run)⟩

theorem commonDivisor_runs (a b : Nat) :
    ∃ rounds, rounds ≤ 2 * (b.log2 + 1) ∧ DivisorRun a b rounds (commonDivisor a b) := by
  obtain ⟨rounds,result,few,run⟩ := run_within (a := a) (b.log2 + 1) Nat.lt_log2_self
  exact ⟨rounds,few,run_commonDivisor run ▸ run⟩

end Loop

namespace Fraction

variable {a b f : Fraction}

theorem divisor_gcd (f : Fraction) : f.divisor = Nat.gcd f.numerator f.denominator := commonDivisor_gcd _ _

theorem divisor_positive (f : Fraction) : 0 < f.divisor := Nat.pos_of_ne_zero f.divisor_nonzero

theorem numerator_reduced (f : Fraction) : f.reduced.numerator * f.divisor = f.numerator := by
  refine Nat.div_mul_cancel ?_
  rw [divisor_gcd]
  exact Nat.gcd_dvd_left _ _

theorem denominator_reduced (f : Fraction) : f.reduced.denominator * f.divisor = f.denominator := by
  refine Nat.div_mul_cancel ?_
  rw [divisor_gcd]
  exact Nat.gcd_dvd_right _ _

theorem reduced_coprime (f : Fraction) : Nat.Coprime f.reduced.numerator f.reduced.denominator := by
  have positive := f.divisor_positive
  simp only [reduced,divisor_gcd] at positive ⊢
  exact Nat.coprime_div_gcd_div_gcd positive

theorem reduced_cross (f : Fraction) : f.numerator * f.reduced.denominator = f.reduced.numerator * f.denominator := by
  calc f.numerator * f.reduced.denominator
      = f.reduced.numerator * f.divisor * f.reduced.denominator := by rw [numerator_reduced]
    _ = f.reduced.numerator * (f.reduced.denominator * f.divisor) := by ac_rfl
    _ = f.reduced.numerator * f.denominator := by rw [denominator_reduced]

theorem cross_reduced : a.numerator * b.denominator = b.numerator * a.denominator ↔
    a.reduced.numerator * b.reduced.denominator = b.reduced.numerator * a.reduced.denominator := by
  have positive : 0 < a.divisor * b.divisor := Nat.mul_pos a.divisor_positive b.divisor_positive
  have first : a.numerator * b.denominator =
      a.reduced.numerator * b.reduced.denominator * (a.divisor * b.divisor) := by
    rw [← a.numerator_reduced,← b.denominator_reduced]
    ac_rfl
  have second : b.numerator * a.denominator =
      b.reduced.numerator * a.reduced.denominator * (a.divisor * b.divisor) := by
    rw [← b.numerator_reduced,← a.denominator_reduced]
    ac_rfl
  rw [first,second]
  exact ⟨Nat.eq_of_mul_eq_mul_right positive,congrArg (· * _)⟩

theorem lowest_unique {m n d e : Nat} (nonzero : d ≠ 0) (first : Nat.Coprime m d) (second : Nat.Coprime n e)
    (cross : m * e = n * d) : m = n ∧ d = e := by
  have one : d ∣ e := first.symm.dvd_of_dvd_mul_left ⟨n,cross.trans (Nat.mul_comm n d)⟩
  have two : e ∣ d := second.symm.dvd_of_dvd_mul_left ⟨m,cross.symm.trans (Nat.mul_comm m e)⟩
  obtain rfl := Nat.dvd_antisymm one two
  exact ⟨Nat.eq_of_mul_eq_mul_right (Nat.pos_of_ne_zero nonzero) cross,rfl⟩

theorem fraction_ext (numerator : a.numerator = b.numerator) (denominator : a.denominator = b.denominator) : a = b := by
  cases a
  cases b
  simp_all

theorem sameValue_cross (a b : Fraction) :
    a.sameValue b = true ↔ a.numerator * b.denominator = b.numerator * a.denominator := by
  rw [sameValue,beq_iff_eq,cross_reduced]
  constructor
  · intro same
    rw [same]
  · intro cross
    obtain ⟨numerator,denominator⟩ := lowest_unique a.reduced_nonzero a.reduced_coprime b.reduced_coprime cross
    exact fraction_ext numerator denominator

theorem reduced_reduced (f : Fraction) : f.reduced.reduced = f.reduced := by
  have one : f.reduced.divisor = 1 := by
    rw [divisor_gcd]
    exact f.reduced_coprime
  apply fraction_ext
  · rw [← numerator_reduced f.reduced,one,Nat.mul_one]
  · rw [← denominator_reduced f.reduced,one,Nat.mul_one]

-- Fractions are equal exactly as rational numbers. Lowest terms are reached by a division that is defined, they are
-- coprime and no larger than what is written, they have the same value, and they are their own lowest terms. The loop
-- behind them ends for all numbers, with the greatest common divisor.
theorem sameValue_rational :
    (∀ a b : Fraction, a.sameValue b = true ↔ a.numerator * b.denominator = b.numerator * a.denominator) ∧
    (∀ f : Fraction, f.divisor ≠ 0 ∧ f.reduced.denominator ≠ 0 ∧
      (f.reduced.numerator ≤ f.numerator ∧ f.reduced.denominator ≤ f.denominator) ∧
      Nat.Coprime f.reduced.numerator f.reduced.denominator ∧
      f.numerator * f.reduced.denominator = f.reduced.numerator * f.denominator ∧ f.reduced.reduced = f.reduced) ∧
    ∀ a b, (∃ rounds, rounds ≤ 2 * (b.log2 + 1) ∧ DivisorRun a b rounds (commonDivisor a b)) ∧
      commonDivisor a b = Nat.gcd a b := by
  refine ⟨sameValue_cross,?_,fun a b => ⟨commonDivisor_runs a b,commonDivisor_gcd a b⟩⟩
  intro f
  have smaller := Nat.div_le_self f.numerator f.divisor
  have below := Nat.div_le_self f.denominator f.divisor
  exact ⟨f.divisor_nonzero,f.reduced_nonzero,⟨smaller,below⟩,f.reduced_coprime,f.reduced_cross,f.reduced_reduced⟩

end Fraction

end CommittedParsing
