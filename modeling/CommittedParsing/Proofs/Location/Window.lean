import Mathlib.Data.List.Flatten
import CommittedParsing.Location

namespace CommittedParsing.Location

variable {α β : Type}

def lineCount (place : Location) : Nat := (Text.lines place.text.toList).length

def lineAt (place : Location) (number : Nat) : List Char := (Text.lines place.text.toList).getD (number - 1) []

def around (place : Location) : List Nat :=
  let first := max 1 (place.linePosition.line - 2)
  let last := min (place.linePosition.line + 2) place.lineCount
  List.range' first (last + 1 - first)

def rowsOf (place : Location) (number : Nat) : List String :=
  let marked := number == place.linePosition.line
  let row := margin marked number ++ String.ofList (place.lineAt number)
  if marked then [row,pointer ((margin marked number).utf8ByteSize + place.linePosition.byteOffset)] else [row]

def emptyBelow (place : Location) (number : Nat) : Bool :=
  (place.lineAt number).isEmpty && place.linePosition.line < number

def emptyEnd (place : Location) (number : Nat) : Bool :=
  (place.lineAt number).isEmpty && number == place.lineCount && number != place.linePosition.line

def shown (place : Location) : List Nat := place.around.filter fun number => !place.emptyBelow number

-- Only the empty end of the text was meant to be passed over.
def wanted (place : Location) : List Nat := place.around.filter fun number => !place.emptyEnd number

theorem marked_present (place : Location) :
    1 ≤ place.linePosition.line ∧ place.linePosition.line ≤ place.lineCount := by
  have front : place.before.Sublist place.text.toList := by
    have whole := Text.takeBytes_dropBytes place.offset place.text.toList
    exact whole ▸ List.sublist_append_left place.before _
  have fewer := front.count_le '\n'
  simp only [linePosition,lineCount,Text.lines_length]
  omega

theorem zipIdx_numbers (pieces : List (List Char)) :
    pieces.zipIdx 1 = (List.range' 1 pieces.length).map fun number => (pieces.getD (number - 1) [],number) := by
  apply List.ext_getElem
  · simp
  · intro index inside _
    have known : index < pieces.length := by simpa using inside
    simp [known,Nat.add_comm 1 index]

theorem contextRows_rowsOf (place : Location) (number : Nat) :
    contextRows place.linePosition number (place.lineAt number) =
      if isShown place.linePosition number (place.lineAt number) then place.rowsOf number else [] := by
  simp only [contextRows,rowsOf]
  cases isShown place.linePosition number (place.lineAt number) <;> rfl

theorem flatMap_shown (test : α → Bool) (f : α → List β) (items : List α) :
    (items.flatMap fun item => if test item then f item else []) = (items.filter test).flatMap f := by
  induction items with
  | nil => rfl
  | cons item items ih => cases passed : test item <;> simp [passed,ih]

theorem range_window (size first last : Nat) (low : 1 ≤ first) (ordered : first ≤ last + 1) (high : last ≤ size) :
    (List.range' 1 size).filter (fun number => first ≤ number && number ≤ last) =
      List.range' first (last + 1 - first) := by
  have front := List.range'_append_1 (s := 1) (m := first - 1) (n := last + 1 - first)
  have whole := List.range'_append_1 (s := 1) (m := last) (n := size - last)
  rw [show 1 + (first - 1) = first by omega,show first - 1 + (last + 1 - first) = last by omega] at front
  rw [show last + (size - last) = size by omega,← front] at whole
  have above : (List.range' 1 (first - 1)).filter (fun number => first ≤ number && number ≤ last) = [] := by
    simp only [List.filter_eq_nil_iff,List.mem_range'_1,Bool.and_eq_true,decide_eq_true_eq]
    omega
  have inside : (List.range' first (last + 1 - first)).filter (fun number => first ≤ number && number ≤ last) =
      List.range' first (last + 1 - first) := by
    simp only [List.filter_eq_self,List.mem_range'_1,Bool.and_eq_true,decide_eq_true_eq]
    omega
  have below : (List.range' (1 + last) (size - last)).filter (fun number => first ≤ number && number ≤ last) = [] := by
    simp only [List.filter_eq_nil_iff,List.mem_range'_1,Bool.and_eq_true,decide_eq_true_eq]
    omega
  rw [← whole,List.filter_append,List.filter_append,above,inside,below,List.nil_append,List.append_nil]

theorem contextLines_shown (place : Location) : place.contextLines = place.shown.flatMap place.rowsOf := by
  obtain ⟨low,present⟩ := marked_present place
  have window := range_window place.lineCount (max 1 (place.linePosition.line - 2))
    (min (place.linePosition.line + 2) place.lineCount) (by omega) (by omega) (by omega)
  rw [contextLines,zipIdx_numbers,List.flatMap_map]
  calc (List.range' 1 place.lineCount).flatMap (fun number => contextRows place.linePosition number (place.lineAt number))
      = ((List.range' 1 place.lineCount).filter fun number =>
          isShown place.linePosition number (place.lineAt number)).flatMap place.rowsOf := by
        simp only [contextRows_rowsOf,flatMap_shown]
    _ = place.shown.flatMap place.rowsOf := by
        rw [shown,around,← window,List.filter_filter]
        congr 1
        apply List.filter_congr
        intro number member
        simp only [List.mem_range'_1] at member
        rw [Bool.eq_iff_iff]
        simp only [isShown,emptyBelow,Bool.and_eq_true,decide_eq_true_eq]
        have bounds : place.linePosition.line ≤ number + 2 ∧ number ≤ place.linePosition.line + 2 ↔
            max 1 (place.linePosition.line - 2) ≤ number ∧
              number ≤ min (place.linePosition.line + 2) place.lineCount := by omega
        rw [bounds,and_comm]

theorem filter_whole {test : α → Bool} {f : α → List β} {items : List α}
    (same : (items.filter test).flatMap f = items.flatMap f) :
    ∀ item ∈ items, f item ≠ [] → test item = true := by
  induction items with
  | nil => simp
  | cons first items ih =>
      cases passed : test first with
      | true =>
          simp only [List.filter_cons,passed,if_true,List.flatMap_cons,List.append_cancel_left_eq] at same
          intro item member written
          rcases List.mem_cons.mp member with rfl | later
          · exact passed
          · exact ih same item later written
      | false =>
          simp only [List.filter_cons,passed,Bool.false_eq_true,if_false,List.flatMap_cons] at same
          have shorter : ((items.filter test).flatMap f).length ≤ (items.flatMap f).length :=
            (List.Sublist.flatMap List.filter_sublist f).length_le
          rw [same,List.length_append] at shorter
          have unwritten : f first = [] := List.length_eq_zero_iff.mp (by omega)
          rw [unwritten,List.nil_append] at same
          intro item member written
          rcases List.mem_cons.mp member with rfl | later
          · exact absurd unwritten written
          · exact ih same item later written

theorem rowsOf_written (place : Location) (number : Nat) : place.rowsOf number ≠ [] := by
  simp only [rowsOf]
  split <;> exact List.cons_ne_nil _ _

-- Behind the text's last line there is none, so the empty end is always below the marked line.
theorem emptyEnd_below (place : Location) {number : Nat} (ending : place.emptyEnd number = true) :
    place.emptyBelow number = true := by
  obtain ⟨_,present⟩ := marked_present place
  simp only [emptyEnd,emptyBelow,Bool.and_eq_true,beq_iff_eq,bne_iff_ne,decide_eq_true_eq] at ending ⊢
  exact ⟨ending.1.1,by omega⟩

theorem shown_wanted (place : Location) : place.shown = place.wanted.filter fun number => !place.emptyBelow number := by
  rw [shown,wanted,List.filter_filter]
  apply List.filter_congr
  intro number _
  cases ending : place.emptyEnd number with
  | false => simp
  | true => simp [emptyEnd_below place ending]

theorem below_wanted (place : Location) {number : Nat} (below : place.linePosition.line < number)
    (near : number ≤ place.linePosition.line + 2) (inner : number < place.lineCount) : number ∈ place.wanted := by
  simp only [wanted,around,List.mem_filter,List.mem_range'_1,emptyEnd,Bool.not_eq_true',Bool.and_eq_false_iff,
    beq_eq_false_iff_ne]
  exact ⟨by omega,.inl (.inr (by omega))⟩

theorem wanted_inhabited (place : Location) (inhabited : ∀ number, place.linePosition.line < number →
    number ≤ place.linePosition.line + 2 → number < place.lineCount → place.lineAt number ≠ []) :
    place.shown = place.wanted := by
  apply List.filter_congr
  intro number member
  simp only [around,List.mem_range'_1] at member
  congr 1
  rw [Bool.eq_iff_iff]
  refine ⟨?_,emptyEnd_below place⟩
  intro hidden
  simp only [emptyBelow,emptyEnd,Bool.and_eq_true,decide_eq_true_eq,beq_iff_eq,bne_iff_ne] at hidden ⊢
  obtain ⟨blank,below⟩ := hidden
  rcases Nat.lt_or_ge number place.lineCount with inner | reached
  · exact absurd (List.isEmpty_iff.mp blank) (inhabited number below (by omega) inner)
  · exact ⟨⟨blank,by omega⟩,by omega⟩

-- The lines shown are those around the marked one without the empty ones below it. They are all that are wanted
-- exactly if every line within reach below the marked one holds something, apart from the text's last.
theorem window_exact (place : Location) :
    1 ≤ place.linePosition.line ∧ place.linePosition.line ≤ place.lineCount ∧
    place.contextLines = place.shown.flatMap place.rowsOf ∧
    (place.contextLines = place.wanted.flatMap place.rowsOf ↔
      ∀ number, place.linePosition.line < number → number ≤ place.linePosition.line + 2 →
        number < place.lineCount → place.lineAt number ≠ []) := by
  obtain ⟨low,present⟩ := marked_present place
  refine ⟨low,present,contextLines_shown place,?_⟩
  rw [contextLines_shown]
  constructor
  · intro whole number below near inner blank
    rw [shown_wanted] at whole
    have kept := filter_whole whole number (below_wanted place below near inner) (rowsOf_written place number)
    simp [emptyBelow,blank,below] at kept
  · intro inhabited
    rw [wanted_inhabited place inhabited]

theorem blank_line_passed_over :
    contextLines ⟨"a\n\nb",0⟩ = ["  > 1 | a","        ^--- here","    3 | b"] ∧
    wanted ⟨"a\n\nb",0⟩ = [1,2,3] ∧
    contextLines ⟨"a\n\nb",0⟩ ≠ (wanted ⟨"a\n\nb",0⟩).flatMap (rowsOf ⟨"a\n\nb",0⟩) := by
  decide

end CommittedParsing.Location
