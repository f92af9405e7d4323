import CommittedParsing.Proofs.Location.Position
import CommittedParsing.Proofs.Text.Decimal
import Mathlib.Data.List.Nodup

namespace CommittedParsing.Location

variable {place : Location} {test : String → Bool} {numbers : List Nat}

def isMarked (line : String) : Bool := "  > ".toList.isPrefixOf line.toList

def isPointer (line : String) : Bool := line.toList.dropWhile (· == ' ') == "^--- here".toList

def restOfLine (place : Location) : List Char := (Text.dropBytes place.offset place.text.toList).takeWhile (· != '\n')

section Rows

theorem isMarked_row (marked : Bool) (number : Nat) (content : String) :
    isMarked (margin marked number ++ content) = marked := by
  cases marked <;> simp [isMarked,margin,List.isPrefixOf]

theorem isMarked_pointer (column : Nat) : isMarked (pointer column) = false := by
  match column with
  | 0 | 1 | 2 => decide
  | column + 3 => simp [isMarked,pointer,List.replicate_succ,List.isPrefixOf]

theorem isPointer_row (marked : Bool) (number : Nat) (content : String) :
    isPointer (margin marked number ++ content) = false := by
  cases marked with
  | true => simp [isPointer,margin]
  | false =>
      obtain ⟨c,rest,spelled⟩ := List.exists_cons_of_ne_nil (Decimal.spell_nonempty number)
      have digit : c.isDigit = true := Decimal.spell_digits number c (spelled ▸ List.mem_cons_self)
      have known : number.repr.toList = c :: rest := by simpa [Nat.repr,Decimal.spell] using spelled
      have space : c ≠ ' ' := by
        rintro rfl
        cases digit
      have caret : c ≠ '^' := by
        rintro rfl
        cases digit
      simp [isPointer,margin,known,space,caret]

theorem isPointer_pointer (column : Nat) : isPointer (pointer column) = true := by
  have spaces : ∀ c ∈ List.replicate column ' ', (c == ' ') = true := by
    intro c member
    exact beq_iff_eq.mpr (List.eq_of_mem_replicate member)
  simp only [isPointer,pointer,String.toList_append,String.toList_ofList,List.dropWhile_append_of_pos spaces]
  decide

end Rows

section Lines

theorem shown_split (place : Location) : ∃ front back, place.shown = front ++ place.linePosition.line :: back ∧
    place.linePosition.line ∉ front ∧ place.linePosition.line ∉ back := by
  obtain ⟨low,present⟩ := marked_present place
  have member : place.linePosition.line ∈ place.shown := by
    simp only [shown,around,List.mem_filter,List.mem_range'_1,emptyBelow,Nat.lt_irrefl,decide_false,Bool.and_false]
    exact ⟨by omega,rfl⟩
  have once : place.shown.Nodup := List.Nodup.filter _ List.nodup_range'
  obtain ⟨front,back,split⟩ := List.append_of_mem member
  rw [split] at once
  obtain ⟨fresh,_⟩ := List.nodup_cons.mp (List.nodup_middle.mp once)
  exact ⟨front,back,split,fun early => fresh (List.mem_append_left back early),
    fun late => fresh (List.mem_append_right front late)⟩

theorem rowsOf_line (place : Location) : place.rowsOf place.linePosition.line =
    [margin true place.linePosition.line ++ String.ofList (place.lineAt place.linePosition.line),
      pointer ((margin true place.linePosition.line).utf8ByteSize + place.linePosition.byteOffset)] := by
  simp [rowsOf]

theorem rowsOf_other {number : Nat} (other : number ≠ place.linePosition.line) :
    place.rowsOf number = [margin false number ++ String.ofList (place.lineAt number)] := by
  simp [rowsOf,beq_false_of_ne other]

-- A test that no unmarked row passes finds nothing where the marked line is not.
theorem rows_filter (plain : ∀ number content, test (margin false number ++ content) = false)
    (apart : place.linePosition.line ∉ numbers) : (numbers.flatMap place.rowsOf).filter test = [] := by
  rw [List.filter_eq_nil_iff]
  intro row member
  obtain ⟨number,inside,written⟩ := List.mem_flatMap.mp member
  rw [rowsOf_other fun same => apart (same ▸ inside)] at written
  rw [List.mem_singleton.mp written,plain]
  decide

theorem contextLines_filter (place : Location)
    (plain : ∀ number content, test (margin false number ++ content) = false) :
    place.contextLines.filter test = (place.rowsOf place.linePosition.line).filter test := by
  obtain ⟨front,back,split,before,after⟩ := shown_split place
  rw [contextLines_shown,split,List.flatMap_append,List.flatMap_cons,List.filter_append,List.filter_append,
    rows_filter plain before,rows_filter plain after,List.nil_append,List.append_nil]

end Lines

theorem lineAt_split (boundary : Text.isBoundary place.offset place.text.toList = true) : ∃ left,
    place.lineAt place.linePosition.line = left ++ place.restOfLine ∧
    place.linePosition.byteOffset = Text.byteLength left := by
  obtain ⟨above,left,right,below,cut⟩ := cut_exists boundary
  have rest : place.restOfLine = right := by
    have inner : ∀ c ∈ right, (c != '\n') = true := by
      intro c member
      refine bne_iff_ne.mpr ?_
      rintro rfl
      exact cut.inner (List.mem_append_right left member)
    rw [restOfLine,cut.whole,cut.here,List.append_assoc left,← List.append_assoc above,Text.dropBytes_front,
      List.takeWhile_append_of_pos inner]
    rcases cut.ends with rfl | ⟨later,rfl⟩
    · exact List.append_nil right
    · rw [List.takeWhile_cons_of_neg (by decide),List.append_nil]
  exact ⟨left,rest ▸ cut_lineAt cut,by rw [cut_linePosition cut]⟩

-- Exactly one line is marked, it is the line of the place with its number, and directly under it is the only pointer.
-- In the column of the pointer the marked line goes on with what the text has from the place on.
theorem pointer_exact (place : Location) (boundary : Text.isBoundary place.offset place.text.toList = true) :
    ∃ earlier later marked column,
      place.contextLines = earlier ++ marked :: (String.ofList (List.replicate column ' ') ++ "^--- here") :: later ∧
      place.contextLines.filter isMarked = [marked] ∧
      place.contextLines.filter isPointer = [String.ofList (List.replicate column ' ') ++ "^--- here"] ∧
      marked = "  > " ++ place.linePosition.line.repr ++ " | " ++ String.ofList (place.lineAt place.linePosition.line) ∧
      startOf place.text place.linePosition.line ≤ place.offset ∧
      place.offset ≤ startOf place.text place.linePosition.line + Text.byteLength (place.lineAt place.linePosition.line) ∧
      Text.slice? column marked.utf8ByteSize marked.toList = some place.restOfLine := by
  have here := boundary_coordinates boundary
  obtain ⟨left,line,width⟩ := lineAt_split boundary
  obtain ⟨front,back,split,_⟩ := shown_split place
  refine ⟨front.flatMap place.rowsOf,back.flatMap place.rowsOf,_,
    (margin true place.linePosition.line).utf8ByteSize + place.linePosition.byteOffset,?_,?_,?_,rfl,?_,?_,?_⟩
  · rw [contextLines_shown,split,List.flatMap_append,List.flatMap_cons,rowsOf_line]
    rfl
  · rw [contextLines_filter place (isMarked_row false),rowsOf_line]
    simp [isMarked_row,isMarked_pointer]
    rfl
  · rw [contextLines_filter place (isPointer_row false),rowsOf_line]
    simp [isPointer_row,isPointer_pointer]
    rfl
  · rw [here.offset]
    exact Nat.le_add_right _ _
  · rw [here.offset]
    exact Nat.add_le_add_left here.fits _
  -- Before the column the row has its margin and what the line has before the place.
  · refine (Text.slice?_exact _ _ _ _).mpr ⟨(margin true place.linePosition.line).toList ++ left,[],?_,?_,?_⟩
    · rw [line]
      simp [margin]
    · rw [Text.byteLength_append,← Text.byteSize_toList,width]
    · rw [line,Text.byteSize_toList]
      simp [margin]

theorem wide_line_pointer :
    contextLines ⟨"a\nç=é",5⟩ = ["    1 | a","  > 2 | ç=é","           ^--- here"] ∧
    ∃ column, String.ofList (List.replicate column ' ') ++ "^--- here" = "           ^--- here" ∧
      Text.slice? column "  > 2 | ç=é".utf8ByteSize "  > 2 | ç=é".toList = some ['é'] := by
  have rows : contextLines ⟨"a\nç=é",5⟩ = ["    1 | a","  > 2 | ç=é","           ^--- here"] := by decide
  obtain ⟨_,_,marked,column,_,marks,pointers,_,_,_,rest⟩ := pointer_exact ⟨"a\nç=é",5⟩ (by decide)
  rw [rows] at marks pointers
  obtain rfl : "  > 2 | ç=é" = marked := List.singleton_inj.mp marks
  exact ⟨rows,column,(List.singleton_inj.mp pointers).symm,rest⟩

end CommittedParsing.Location
