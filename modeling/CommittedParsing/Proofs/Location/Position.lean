import CommittedParsing.Proofs.Location.Window
import Mathlib.Algebra.GroupWithZero.Nat

namespace CommittedParsing

def LinePosition.Before (one other : LinePosition) : Prop :=
  one.line < other.line ∨ one.line = other.line ∧ one.byteOffset < other.byteOffset

namespace Text

theorem byteLength_lines (text : List Char) :
    ((lines text).map fun line => byteLength line + 1).sum = byteLength text + 1 := by
  induction text with
  | nil => rfl
  | cons c rest ih =>
      by_cases feed : c = '\n'
      · rw [feed,lines_feed,List.map_cons,List.sum_cons,ih,byteLength_cons,byteLength_nil]
        have single : '\n'.utf8Size = 1 := by decide
        omega
      · cases known : lines rest with
        | nil => exact absurd known (lines_nonempty rest)
        | cons first others =>
            rw [known,List.map_cons,List.sum_cons] at ih
            rw [lines_char feed known,List.map_cons,List.sum_cons,byteLength_cons,byteLength_cons]
            omega

theorem firstLine_split (text : List Char) : ∃ front back, text = front ++ back ∧ '\n' ∉ front ∧
    (back = [] ∨ ∃ later, back = '\n' :: later) := by
  induction text with
  | nil => exact ⟨[],[],rfl,List.not_mem_nil,.inl rfl⟩
  | cons c rest ih =>
      by_cases feed : c = '\n'
      · exact ⟨[],c :: rest,rfl,List.not_mem_nil,.inr ⟨rest,by rw [feed]⟩⟩
      · obtain ⟨front,back,rfl,inner,ends⟩ := ih
        refine ⟨c :: front,back,rfl,?_,ends⟩
        exact fun member => (List.mem_cons.mp member).elim (Ne.symm feed) inner

theorem lastLine_split (text : List Char) : ∃ front, text = front ++ lastLine text ∧ '\n' ∉ lastLine text ∧
    (front = [] ∨ ∃ earlier, front = earlier ++ ['\n']) := by
  obtain ⟨tail,back,cut,inner,starts⟩ := firstLine_split text.reverse
  have plain : '\n' ∉ tail.reverse := fun member => inner (List.mem_reverse.mp member)
  have whole : text = back.reverse ++ tail.reverse := by
    rw [← List.reverse_append,← cut,List.reverse_reverse]
  rcases starts with rfl | ⟨earlier,rfl⟩
  · have last : lastLine text = tail.reverse := by
      rw [whole]
      exact lastLine_whole tail.reverse plain
    exact ⟨[],whole.trans (by rw [last]; rfl),last ▸ plain,.inl rfl⟩
  · rw [List.reverse_cons,List.append_assoc] at whole
    have last : lastLine text = tail.reverse := by
      rw [whole]
      exact lastLine_feed earlier.reverse tail.reverse plain
    refine ⟨earlier.reverse ++ ['\n'],?_,last ▸ plain,.inr ⟨_,rfl⟩⟩
    rw [last,List.append_assoc]
    exact whole

end Text

namespace Location

variable {place : Location} {above left right below : List Char}

def startOf (text : String) (number : Nat) : Nat :=
  (((Text.lines text.toList).take (number - 1)).map fun line => Text.byteLength line + 1).sum

-- The line of a place, which is cut in two there, between the lines above it and those below it.
structure Cut (place : Location) (above left right below : List Char) : Prop where
  whole : place.text.toList = above ++ (left ++ right ++ below)
  here : place.offset = Text.byteLength (above ++ left)
  inner : '\n' ∉ left ++ right
  starts : above = [] ∨ ∃ earlier, above = earlier ++ ['\n']
  ends : below = [] ∨ ∃ later, below = '\n' :: later

theorem cut_exists (boundary : Text.isBoundary place.offset place.text.toList = true) :
    ∃ above left right below, place.Cut above left right below := by
  obtain ⟨past,rest,whole,here⟩ := (Text.isBoundary_exact _ _).mp boundary
  obtain ⟨above,front,before,starts⟩ := Text.lastLine_split past
  obtain ⟨right,below,rfl,after,ends⟩ := Text.firstLine_split rest
  refine ⟨above,Text.lastLine past,right,below,?_,front ▸ here,?_,starts,ends⟩
  · rw [whole,List.append_assoc,← List.append_assoc above,← front]
  · exact fun member => (List.mem_append.mp member).elim before after

section Cut

variable (cut : place.Cut above left right below)

include cut

theorem cut_before : place.before = above ++ left := by
  rw [before,cut.whole,cut.here,List.append_assoc left,← List.append_assoc above,Text.takeBytes_front]

theorem cut_lastLine : Text.lastLine place.before = left := by
  have plain : '\n' ∉ left := fun member => cut.inner (List.mem_append_left right member)
  rw [cut_before cut]
  rcases cut.starts with rfl | ⟨earlier,rfl⟩
  · exact Text.lastLine_whole left plain
  · rw [List.append_assoc]
    exact Text.lastLine_feed earlier left plain

theorem cut_linePosition : place.linePosition = ⟨above.count '\n' + 1,Text.byteLength left⟩ := by
  have plain : left.count '\n' = 0 := List.count_eq_zero.mpr fun member => cut.inner (List.mem_append_left right member)
  have start : place.lineStart = Text.byteLength above := by
    rw [lineStart,cut_lastLine cut,cut_before cut,Text.byteLength_append,Nat.add_sub_cancel]
  rw [linePosition,start,cut_before cut,cut.here,List.count_append,plain,Text.byteLength_append,Nat.add_sub_cancel_left]

-- The line stands in the whole text behind as many lines as there are line feeds above it, and they take its offset.
theorem cut_lines : ∃ earlier later, Text.lines place.text.toList = earlier ++ (left ++ right) :: later ∧
    earlier.length = above.count '\n' ∧
    (earlier.map fun line => Text.byteLength line + 1).sum = Text.byteLength above := by
  have rest : ∃ later, Text.lines (left ++ right ++ below) = (left ++ right) :: later := by
    rcases cut.ends with rfl | ⟨later,rfl⟩
    · rw [List.append_nil,Text.lines_single cut.inner]
      exact ⟨[],rfl⟩
    · rw [Text.lines_front later cut.inner]
      exact ⟨_,rfl⟩
  obtain ⟨later,found⟩ := rest
  rw [cut.whole]
  rcases cut.starts with rfl | ⟨earlier,rfl⟩
  · exact ⟨[],later,found,rfl,rfl⟩
  · refine ⟨Text.lines earlier,later,?_,?_,?_⟩
    · rw [List.append_assoc,List.singleton_append,Text.lines_append,found]
    · rw [Text.lines_length,List.count_append]
      rfl
    · rw [Text.byteLength_lines,Text.byteLength_append]
      rfl

theorem cut_lineAt : place.lineAt place.linePosition.line = left ++ right := by
  obtain ⟨earlier,later,lines,above,_⟩ := cut_lines cut
  rw [cut_linePosition cut,lineAt,lines,Nat.add_sub_cancel,← above]
  simp

theorem cut_startOf : startOf place.text place.linePosition.line = Text.byteLength above := by
  obtain ⟨earlier,later,lines,above,size⟩ := cut_lines cut
  rw [cut_linePosition cut,startOf,lines,Nat.add_sub_cancel,← above,List.take_left,size]

end Cut

theorem startOf_next (place : Location) {number : Nat} (low : 1 ≤ number) (inside : number ≤ place.lineCount) :
    startOf place.text (number + 1) = startOf place.text number + Text.byteLength (place.lineAt number) + 1 := by
  obtain ⟨index,rfl⟩ : ∃ index, number = index + 1 := ⟨number - 1,by omega⟩
  have known : index < (Text.lines place.text.toList).length := inside
  have line : place.lineAt (index + 1) = (Text.lines place.text.toList)[index] := by simp [lineAt,known]
  simp only [startOf,Nat.add_sub_cancel]
  rw [line,List.take_succ_eq_append_getElem known,List.map_append,List.sum_append_nat,Nat.add_assoc]
  rfl

theorem startOf_mono (text : String) {one other : Nat} (order : one ≤ other) :
    startOf text one ≤ startOf text other := by
  obtain ⟨more,further⟩ : ∃ more, other - 1 = one - 1 + more := ⟨other - 1 - (one - 1),by omega⟩
  rw [startOf,startOf,further,List.take_add,List.map_append,List.sum_append_nat]
  exact Nat.le_add_right _ _

structure Coordinates (place : Location) (position : LinePosition) : Prop where
  low : 1 ≤ position.line
  present : position.line ≤ place.lineCount
  fits : position.byteOffset ≤ Text.byteLength (place.lineAt position.line)
  offset : place.offset = startOf place.text position.line + position.byteOffset

theorem boundary_coordinates (boundary : Text.isBoundary place.offset place.text.toList = true) :
    place.Coordinates place.linePosition := by
  obtain ⟨above,left,right,below,cut⟩ := cut_exists boundary
  obtain ⟨low,present⟩ := marked_present place
  have inLine : place.linePosition.byteOffset = Text.byteLength left := by rw [cut_linePosition cut]
  refine ⟨low,present,?_,?_⟩
  · rw [cut_lineAt cut,inLine,Text.byteLength_append]
    exact Nat.le_add_right _ _
  · rw [cut_startOf cut,inLine,cut.here,Text.byteLength_append]

theorem coordinates_earlier {other : Location} {position further : LinePosition} (same : other.text = place.text)
    (first : place.Coordinates position) (second : other.Coordinates further) (earlier : position.line < further.line) :
    place.offset < other.offset := by
  have next := startOf_next place first.low first.present
  have order : startOf place.text (position.line + 1) ≤ startOf place.text further.line := startOf_mono place.text earlier
  have fits := first.fits
  rw [first.offset,second.offset,same]
  omega

theorem coordinates_before {other : Location} {position further : LinePosition} (same : other.text = place.text)
    (first : place.Coordinates position) (second : other.Coordinates further) :
    place.offset < other.offset ↔ position.Before further := by
  rcases Nat.lt_trichotomy position.line further.line with earlier | level | later
  · exact iff_of_true (coordinates_earlier same first second earlier) (.inl earlier)
  · have alike : place.offset < other.offset ↔ position.byteOffset < further.byteOffset := by
      rw [first.offset,second.offset,same,level]
      omega
    rw [alike,LinePosition.Before]
    omega
  · have back := coordinates_earlier same.symm second first later
    rw [LinePosition.Before]
    omega

-- Line and byte offset are those of the place among the lines of the text, from which its offset can be computed, and
-- of two places of a text the earlier one has the earlier line position.
theorem linePosition_exact (place : Location) (boundary : Text.isBoundary place.offset place.text.toList = true) :
    1 ≤ place.linePosition.line ∧ place.linePosition.line ≤ place.lineCount ∧
    place.linePosition.byteOffset ≤ Text.byteLength (place.lineAt place.linePosition.line) ∧
    place.offset = startOf place.text place.linePosition.line + place.linePosition.byteOffset ∧
    ∀ other : Location, other.text = place.text → Text.isBoundary other.offset other.text.toList = true →
      (place.offset < other.offset ↔ place.linePosition.Before other.linePosition) := by
  have here := boundary_coordinates boundary
  refine ⟨here.low,here.present,here.fits,here.offset,?_⟩
  intro other same also
  exact coordinates_before same here (boundary_coordinates also)

theorem empty_line_position :
    linePosition ⟨"é\n\nab",3⟩ = ⟨2,0⟩ ∧ lineAt ⟨"é\n\nab",3⟩ 2 = [] ∧ 3 = startOf "é\n\nab" 2 + 0 ∧
    linePosition ⟨"é\n\nab",5⟩ = ⟨3,1⟩ ∧ LinePosition.Before ⟨2,0⟩ ⟨3,1⟩ := by
  obtain ⟨_,_,_,offset,order⟩ := linePosition_exact ⟨"é\n\nab",3⟩ (by decide)
  have first : linePosition ⟨"é\n\nab",3⟩ = ⟨2,0⟩ := by decide
  have second : linePosition ⟨"é\n\nab",5⟩ = ⟨3,1⟩ := by decide
  have before := (order ⟨"é\n\nab",5⟩ rfl (by decide)).mp (by decide)
  rw [first] at offset before
  rw [second] at before
  exact ⟨first,by decide,offset,second,before⟩

end Location

end CommittedParsing
