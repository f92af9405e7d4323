import CommittedParsing.Text.Decimal

namespace CommittedParsing.Decimal

-- Drops each zero that starts a run of digits and has a digit after it. The flag tells whether a digit
-- of the same run has been kept already.
def dropZeros (inside : Bool) : List Char → List Char
  | [] => []
  | c :: rest =>
    if c = '0' ∧ inside = false ∧ rest.head?.any Char.isDigit then dropZeros false rest
    else c :: dropZeros c.isDigit rest

theorem digit_bounds {c : Char} (digit : c.isDigit = true) : '0'.toNat ≤ c.toNat ∧ c.toNat < '0'.toNat + 10 := by
  simp only [Char.isDigit,Bool.and_eq_true,decide_eq_true_eq,ge_iff_le,UInt32.le_iff_toNat_le] at digit
  change 48 ≤ c.toNat ∧ c.toNat ≤ 57 at digit
  change 48 ≤ c.toNat ∧ c.toNat < 58
  omega

theorem digitChar_digit {c : Char} (digit : c.isDigit = true) : (c.toNat - '0'.toNat).digitChar = c := by
  obtain ⟨low,high⟩ := digit_bounds digit
  apply Char.toNat_inj.mp
  rw [Nat.toNat_digitChar_of_lt_ten (by omega)]
  have zero : '0'.toNat = 48 := rfl
  omega

theorem value_single {c : Char} : value [c] = c.toNat - '0'.toNat := by
  simp [value,Nat.ofDigitChars_cons]

theorem value_zero_cons (digits : List Char) : value ('0' :: digits) = value digits := by
  simp [value,Nat.ofDigitChars_cons]

theorem spell_single {c : Char} (digit : c.isDigit = true) : spell (value [c]) = [c] := by
  obtain ⟨low,high⟩ := digit_bounds digit
  rw [value_single,spell_small (by omega),digitChar_digit digit]

-- A run that does not start with a zero is written as it is. Digits come off at the end, where they are
-- the remainders.
theorem spell_value {digits : List Char} (all : ∀ c ∈ digits, c.isDigit = true) (nonempty : digits ≠ [])
    (leading : digits.head? ≠ some '0') : spell (value digits) = digits := by
  obtain ⟨back,rfl⟩ : ∃ back, digits = back.reverse := ⟨digits.reverse,digits.reverse_reverse.symm⟩
  induction back with
  | nil => exact absurd rfl nonempty
  | cons c back ih =>
      rw [List.reverse_cons] at all leading ⊢
      have digit : c.isDigit = true := all c (by simp)
      by_cases single : back = []
      · subst single
        exact spell_single digit
      · have kept : back.reverse ≠ [] := by simpa using single
        have first : (back.reverse ++ [c]).head? = back.reverse.head? := by
          obtain ⟨d,tail,same⟩ := List.exists_cons_of_ne_nil kept
          rw [same]
          rfl
        rw [first] at leading
        have shorter := ih (fun d member => all d (by simp [List.mem_reverse.mp member])) kept leading
        have positive : 0 < value back.reverse := by
          apply Nat.pos_of_ne_zero
          intro zero
          rw [zero,spell_small (by omega)] at shorter
          rw [← shorter] at leading
          exact leading rfl
        obtain ⟨low,high⟩ := digit_bounds digit
        have remainder : c.toNat - '0'.toNat < 10 := by omega
        have joined := Nat.toDigits_append_toDigits (b := 10) (by omega) positive remainder
        rw [Nat.toDigits_of_lt_base remainder,digitChar_digit digit] at joined
        rw [value_snoc,spell,← joined]
        exact congrArg (· ++ [c]) shorter

theorem dropZeros_other {inside : Bool} {c : Char} {rest : List Char} (other : c.isDigit = false) :
    dropZeros inside (c :: rest) = c :: dropZeros false rest := by
  rw [dropZeros,if_neg,other]
  intro found
  obtain ⟨rfl,_⟩ := found
  cases other

theorem dropZeros_plain {text after : List Char} (none : ∀ c ∈ text, c.isDigit = false) :
    dropZeros false (text ++ after) = text ++ dropZeros false after := by
  induction text with
  | nil => rfl
  | cons c rest ih =>
      obtain ⟨other,others⟩ := List.forall_mem_cons.mp none
      rw [List.cons_append,dropZeros_other other,ih others,List.cons_append]

theorem dropZeros_flag {inside : Bool} {after : List Char} (stops : ∀ c, after.head? = some c → c.isDigit = false) :
    dropZeros inside after = dropZeros false after := by
  cases after with
  | nil => rfl
  | cons c rest => rw [dropZeros_other (stops c rfl),dropZeros_other (stops c rfl)]

theorem dropZeros_inside {digits after : List Char} (all : ∀ c ∈ digits, c.isDigit = true)
    (stops : ∀ c, after.head? = some c → c.isDigit = false) :
    dropZeros true (digits ++ after) = digits ++ dropZeros false after := by
  induction digits with
  | nil => exact dropZeros_flag stops
  | cons c rest ih =>
      obtain ⟨digit,others⟩ := List.forall_mem_cons.mp all
      rw [List.cons_append,dropZeros,if_neg (by simp),digit,ih others,List.cons_append]

theorem dropZeros_run {digits after : List Char} (all : ∀ c ∈ digits, c.isDigit = true) (nonempty : digits ≠ [])
    (stops : ∀ c, after.head? = some c → c.isDigit = false) :
    dropZeros false (digits ++ after) = spell (value digits) ++ dropZeros false after := by
  induction digits with
  | nil => exact absurd rfl nonempty
  | cons c rest ih =>
      obtain ⟨digit,others⟩ := List.forall_mem_cons.mp all
      by_cases redundant : c = '0' ∧ rest ≠ []
      · obtain ⟨rfl,more⟩ := redundant
        have next : (rest ++ after).head?.any Char.isDigit = true := by
          obtain ⟨d,tail,rfl⟩ := List.exists_cons_of_ne_nil more
          simpa using others d (by simp)
        rw [List.cons_append,dropZeros,if_pos ⟨rfl,rfl,next⟩,ih others more,value_zero_cons]
      · have kept : spell (value (c :: rest)) = c :: rest := by
          by_cases single : rest = []
          · subst single
            exact spell_single digit
          · exact spell_value all nonempty fun zero => redundant ⟨by simpa using zero,single⟩
        have stays : ¬ (c = '0' ∧ false = false ∧ (rest ++ after).head?.any Char.isDigit = true) := by
          intro found
          obtain ⟨rfl,_,next⟩ := found
          have last : rest = [] := by simpa using redundant
          subst last
          cases after with
          | nil => cases next
          | cons d tail =>
              have refused : d.isDigit = true := next
              rw [stops d rfl] at refused
              cases refused
        rw [List.cons_append,dropZeros,if_neg stays,digit,dropZeros_inside others stops,kept,List.cons_append]

end CommittedParsing.Decimal
