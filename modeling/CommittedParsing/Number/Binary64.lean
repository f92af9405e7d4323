namespace CommittedParsing

-- Magnitudes are numbered upwards from zero as their bit patterns are, and the one after the largest finite one is
-- infinity.
structure Binary64 where
  negative : Bool
  magnitude : Nat
deriving DecidableEq

namespace Binary64

def binade : Nat := Nat.pow 2 52

def infinity : Nat := 2047 * binade

-- How many of the smallest positive magnitudes make one.
def unitsPerOne : Nat := Nat.pow 2 1074

def roundHalfEven (num den : Nat) : Nat :=
  let whole := num / den
  let twice := 2 * (num % den)
  if twice < den then whole else if den < twice then whole + 1 else whole + whole % 2

-- The magnitude nearest to a quotient. A significand rounded up to the next binade carries into it.
def nearest (num den : Nat) : Nat :=
  let scaled := num * unitsPerOne
  let shift := (scaled / den).log2 - 52
  min infinity (shift * binade + roundHalfEven scaled (den * Nat.pow 2 shift))

def units (magnitude : Nat) : Nat :=
  if magnitude < binade then magnitude
  else (binade + magnitude % binade) * Nat.pow 2 (magnitude / binade - 1)

def ofNat (n : Nat) : Binary64 := ⟨false,nearest n 1⟩

def ofDecimal (negative : Bool) (digits places : Nat) : Binary64 := ⟨negative,nearest digits (Nat.pow 10 places)⟩

def divide (a b : Binary64) : Binary64 := ⟨a.negative != b.negative,nearest (units a.magnitude) (units b.magnitude)⟩

def sameValue (a b : Binary64) : Bool := a.magnitude == b.magnitude && (a.negative == b.negative || a.magnitude == 0)

def bits (x : Binary64) : Nat := (if x.negative then Nat.pow 2 63 else 0) + x.magnitude

theorem roundHalfEven_exact (num den : Nat) (positive : 0 < den) :
    2 * (roundHalfEven num den * den) ≤ 2 * num + den ∧ 2 * num ≤ 2 * (roundHalfEven num den * den) + den := by
  have whole := Nat.div_add_mod num den
  have below := Nat.mod_lt num positive
  have folded : num / den * den + num % den = num := by rw [Nat.mul_comm]; exact whole
  simp only [roundHalfEven]
  split
  · omega
  · split
    · rw [Nat.add_mul]
      omega
    · rcases Nat.mod_two_eq_zero_or_one (num / den) with even | odd
      · rw [even,Nat.add_zero]
        omega
      · rw [odd,Nat.add_mul]
        omega

end Binary64

end CommittedParsing
