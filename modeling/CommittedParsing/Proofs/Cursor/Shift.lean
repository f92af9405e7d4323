import CommittedParsing.Proofs.Cursor.Reads

namespace CommittedParsing

-- The same span in a text with `front` before it: other offsets, the same text.
structure Span.Shifted (front : String) (far near : Span) : Prop where
  source : far.source = front ++ near.source
  start : far.start = front.utf8ByteSize + near.start
  stop : far.stop = front.utf8ByteSize + near.stop
  text : far.text? = near.text?

structure Cursor.Shifted (front : String) (far near : Cursor) : Prop where
  source : far.source = front ++ near.source
  position : far.position = front.utf8ByteSize + near.position
  rest : far.rest = near.rest

theorem Span.shifted_places (front source : String) (start stop : Nat) :
    Shifted front ⟨front ++ source,front.utf8ByteSize + start,front.utf8ByteSize + stop⟩ ⟨source,start,stop⟩ where
  source := rfl
  start := rfl
  stop := rfl
  text := by rw [text?,text?,Text.byteSize_toList,String.toList_append,Text.slice?_append]

namespace Cursor

variable {front back : String} {far near farther nearer : Cursor}

theorem shifted_advance {c : Char} (shift : Shifted front far near) (passed : Reads near [c] nearer) :
    ∃ farther, Reads far [c] farther ∧ Shifted front farther nearer := by
  obtain ⟨kept,ahead,moved⟩ := passed
  obtain ⟨farther,passed,rest⟩ := reads_front (shift.rest.trans ahead)
  refine ⟨farther,passed,?_,?_,rest⟩
  · rw [passed.1,shift.source,kept]
  · rw [passed.2.2,shift.position,moved,Nat.add_assoc]

theorem shifted_peek (shift : Shifted front far near) : far.peek? = near.peek? := by
  rw [peek?,peek?,shift.rest]

theorem shifted_remaining (shift : Shifted front far near) : far.remaining = near.remaining := by
  rw [remaining,remaining,shift.source,shift.position,String.utf8ByteSize_append,Nat.add_sub_add_left]

theorem shifted_further (shift : Shifted front far near) (later : Shifted front farther nearer) :
    far.position < farther.position ↔ near.position < nearer.position := by
  rw [shift.position,later.position,Nat.add_lt_add_iff_left]

theorem shifted_less (shift : Shifted front far near) (later : Shifted front farther nearer) :
    farther.remaining < far.remaining ↔ nearer.remaining < near.remaining := by
  rw [shifted_remaining shift,shifted_remaining later]

theorem shifted_textUpTo (shift : Shifted front far near) (later : Shifted front farther nearer) :
    far.textUpTo farther = near.textUpTo nearer := by
  rw [textUpTo,textUpTo,shift.rest,shift.position,later.position,Nat.add_sub_add_left]

theorem shifted_span (shift : Shifted front far near) (later : Shifted front farther nearer) :
    Span.Shifted front ⟨far.source,far.position,farther.position⟩ ⟨near.source,near.position,nearer.position⟩ := by
  rw [shift.source,shift.position,later.position]
  exact Span.shifted_places front near.source near.position nearer.position

theorem reached_shifted (reached : Reached (front ++ back) far) (placed : far.position = front.utf8ByteSize) :
    Shifted front far (start back) := by
  obtain ⟨past,same,whole,size⟩ := reached_split reached
  rw [String.toList_append] at whole
  have width : Text.byteLength past = Text.byteLength front.toList := by
    rw [← size,placed,Text.byteSize_toList]
  have before : past = front.toList := by
    calc past = Text.takeBytes (Text.byteLength past) (past ++ far.rest) := (Text.takeBytes_front _ _).symm
      _ = Text.takeBytes (Text.byteLength front.toList) (front.toList ++ back.toList) := by rw [width,whole]
      _ = front.toList := Text.takeBytes_front _ _
  refine ⟨same,placed,?_⟩
  rw [before] at whole
  exact (List.append_cancel_left whole).symm

end Cursor

end CommittedParsing
