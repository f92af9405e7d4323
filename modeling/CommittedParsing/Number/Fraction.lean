import CommittedParsing.Number.Binary64

namespace CommittedParsing

def commonDivisor (a : Nat) : Nat → Nat
  | 0 => a
  | b + 1 => commonDivisor (b + 1) (a % (b + 1))
termination_by b => b
decreasing_by exact Nat.mod_lt a (Nat.succ_pos b)

theorem commonDivisor_gcd (a b : Nat) : commonDivisor a b = Nat.gcd a b := by
  induction b using Nat.strongRecOn generalizing a with
  | ind b ih =>
      cases b with
      | zero => simp [commonDivisor]
      | succ b =>
          rw [commonDivisor,ih _ (Nat.mod_lt a (Nat.succ_pos b)),Nat.gcd_comm a,Nat.gcd_rec (b + 1) a]
          exact Nat.gcd_comm _ _

structure Fraction where
  numerator : Nat
  denominator : Nat
  nonzero : denominator ≠ 0
deriving DecidableEq

namespace Fraction

def of? (numerator denominator : Nat) : Option Fraction :=
  if nonzero : denominator ≠ 0 then some ⟨numerator,denominator,nonzero⟩ else none

def divisor (f : Fraction) : Nat := commonDivisor f.numerator f.denominator

theorem divisor_nonzero (f : Fraction) : f.divisor ≠ 0 := by
  rw [divisor,commonDivisor_gcd]
  exact fun zero => f.nonzero (Nat.eq_zero_of_gcd_eq_zero_right zero)

theorem reduced_nonzero (f : Fraction) : f.denominator / f.divisor ≠ 0 := by
  have divides : f.divisor ∣ f.denominator := by
    rw [divisor,commonDivisor_gcd]
    exact Nat.gcd_dvd_right _ _
  have fits := Nat.le_of_dvd (Nat.pos_of_ne_zero f.nonzero) divides
  exact Nat.ne_of_gt (Nat.div_pos fits (Nat.pos_of_ne_zero f.divisor_nonzero))

def reduced (f : Fraction) : Fraction :=
  ⟨f.numerator / f.divisor,f.denominator / f.divisor,f.reduced_nonzero⟩

def sameValue (a b : Fraction) : Bool := a.reduced == b.reduced

-- Both parts are rounded to binary first, then their quotient is.
def toBinary64 (f : Fraction) : Binary64 := (Binary64.ofNat f.numerator).divide (Binary64.ofNat f.denominator)

def render (f : Fraction) : String := f.numerator.repr ++ "/" ++ f.denominator.repr

end Fraction

end CommittedParsing
