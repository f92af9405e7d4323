namespace CommittedParsing.Decimal

def spell (n : Nat) : List Char := Nat.toDigits 10 n

def value (digits : List Char) : Nat := Nat.ofDigitChars 10 digits 0

def digit? (c : Char) : Option Nat := if c.isDigit then some (c.toNat - '0'.toNat) else none

def below? (limit n : Nat) : Option Nat := if n < limit then some n else none

-- One more digit behind a number. The product may be out of range, and so may the sum.
def push? (limit front : Nat) (c : Char) : Option Nat := do
  let scaled ← below? limit (front * 10)
  let digit ← digit? c
  below? limit (scaled + digit)

def valueBelow? (limit : Nat) (digits : List Char) : Option Nat := digits.foldlM (push? limit) 0

def spellSigned (n : Int) : List Char := if n < 0 then '-' :: spell n.natAbs else spell n.natAbs

theorem value_spell (n : Nat) : value (spell n) = n := Nat.ofDigitChars_toDigits (by omega) (by omega)

theorem spell_injective {m n : Nat} (same : spell m = spell n) : m = n := by
  rw [← value_spell m,same,value_spell]

theorem spell_nonempty (n : Nat) : spell n ≠ [] := Nat.toDigits_ne_nil

theorem spell_digits (n : Nat) : ∀ c ∈ spell n, c.isDigit = true :=
  fun _ member => Nat.isDigit_of_mem_toDigits (by omega) (by omega) member

theorem spell_small {n : Nat} (small : n < 10) : spell n = [n.digitChar] := Nat.toDigits_of_lt_base small

theorem value_snoc (digits : List Char) (c : Char) :
    value (digits ++ [c]) = 10 * value digits + (c.toNat - '0'.toNat) := by
  simp [value,Nat.ofDigitChars_append,Nat.ofDigitChars_cons]

section Below

variable {limit front : Nat} {digits : List Char}

theorem below?_fits {n : Nat} (fits : n < limit) : below? limit n = some n := if_pos fits

theorem below?_exceeds {n : Nat} (large : limit ≤ n) : below? limit n = none := if_neg (Nat.not_lt.mpr large)

theorem push?_exact {c : Char} (digit : c.isDigit = true) :
    push? limit front c = below? limit (10 * front + (c.toNat - '0'.toNat)) := by
  simp only [push?,digit?,digit,if_true]
  by_cases fits : front * 10 < limit
  · rw [below?_fits fits,Nat.mul_comm front 10]
    rfl
  · rw [below?_exceeds (Nat.le_of_not_lt fits),below?_exceeds (by omega)]
    rfl

theorem le_ofDigitChars (digits : List Char) (front : Nat) : front ≤ Nat.ofDigitChars 10 digits front := by
  induction digits generalizing front with
  | nil => simp
  | cons c rest ih =>
      rw [Nat.ofDigitChars_cons]
      exact Nat.le_trans (by omega) (ih _)

-- The induction is on the digits to come; what has been read is in range so far.
theorem foldlM_push? (all : ∀ c ∈ digits, c.isDigit = true) (fits : front < limit) :
    digits.foldlM (push? limit) front = below? limit (Nat.ofDigitChars 10 digits front) := by
  induction digits generalizing front with
  | nil => simp [below?_fits fits]
  | cons c rest ih =>
      obtain ⟨digit,others⟩ := List.forall_mem_cons.mp all
      rw [List.foldlM_cons,push?_exact digit,Nat.ofDigitChars_cons]
      by_cases next : 10 * front + (c.toNat - '0'.toNat) < limit
      · rw [below?_fits next]
        exact ih others next
      · have large := Nat.le_of_not_lt next
        rw [below?_exceeds large,below?_exceeds (Nat.le_trans large (le_ofDigitChars rest _))]
        rfl

theorem valueBelow?_exact (positive : 0 < limit) (all : ∀ c ∈ digits, c.isDigit = true) :
    valueBelow? limit digits = below? limit (value digits) := foldlM_push? all positive

end Below

end CommittedParsing.Decimal
