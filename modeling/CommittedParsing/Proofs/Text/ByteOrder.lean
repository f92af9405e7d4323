import Mathlib.Data.String.Basic

namespace CommittedParsing.Text

def bytes (text : String) : List UInt8 := text.toUTF8.data.toList

theorem bytes_toList (text : String) : bytes text = text.toList.flatMap String.utf8EncodeChar := by
  rw [bytes,String.toUTF8,← String.utf8Encode_toList,List.utf8Encode,List.toList_data_toByteArray]

theorem code_bound (c : Char) : c.toNat < 1114112 := by
  have valid := c.valid
  simp only [UInt32.isValidChar,Nat.isValidChar,Char.toNat_val] at valid
  omega

-- The first byte of a character tells how many follow, and characters of more bytes come later; of those with equally
-- many, the bytes are the digits of the code to base 64.
theorem encode_lt {c d : Char} (less : c < d) (more others : List UInt8) :
    String.utf8EncodeChar c ++ more < String.utf8EncodeChar d ++ others := by
  have codes : c.toNat < d.toNat := less
  have top := code_bound d
  -- Division by one digit after the other keeps the digits linear in the code.
  have twice (n : Nat) : n / 4096 = n / 64 / 64 := (Nat.div_div_eq_div_mul n 64 64).symm
  have thrice (n : Nat) : n / 262144 = n / 64 / 64 / 64 := by
    rw [Nat.div_div_eq_div_mul,Nat.div_div_eq_div_mul]
  simp only [String.utf8EncodeChar,Char.toNat_val,twice,thrice]
  split <;> split
  all_goals repeat' split
  all_goals simp only [List.cons_append,List.nil_append,List.cons_lt_cons_iff,UInt8.lt_iff_toNat_lt,
    ← UInt8.toNat_inj,UInt8.toNat_ofNat']
  all_goals omega

theorem encodeAll_lt {front back : List Char} (less : front < back) :
    front.flatMap String.utf8EncodeChar < back.flatMap String.utf8EncodeChar := by
  induction less with
  | @nil c others =>
      rw [List.flatMap_cons]
      cases encoded : String.utf8EncodeChar c with
      | nil => exact absurd encoded String.utf8EncodeChar_ne_nil
      | cons byte more => exact .nil
  | cons _ ih =>
      rw [List.flatMap_cons,List.flatMap_cons]
      exact List.Lex.append_left _ ih _
  | rel less =>
      rw [List.flatMap_cons,List.flatMap_cons]
      exact encode_lt less _ _

theorem compare_bytes (a b : String) : compare a b = .lt ↔ bytes a < bytes b := by
  have forth {a b : String} (less : compare a b = .lt) : bytes a < bytes b := by
    rw [bytes_toList,bytes_toList]
    exact encodeAll_lt (String.lt_iff_toList_lt.mp (compare_lt_iff_lt.mp less))
  constructor
  · exact forth
  · intro less
    cases order : compare a b with
    | lt => rfl
    | eq =>
        rw [Std.LawfulEqCmp.compare_eq_iff_eq.mp order] at less
        exact absurd less (List.lt_irrefl _)
    | gt =>
        have reverse : bytes b < bytes a := forth (Std.OrientedCmp.lt_of_gt order)
        exact absurd less (List.lt_asymm reverse)

end CommittedParsing.Text
