import CommittedParsing.Proofs.Cursor.Reads

namespace CommittedParsing

-- What lies ahead can be cut out of the source again, and at the end not even the offset is needed.
inductive Stored where
  | inside (source : String) (position : Nat)
  | ended (source : String)
deriving DecidableEq

namespace Stored

def start (source : String) : Stored := if source.isEmpty then .ended source else .inside source 0

def source : Stored → String
  | .inside source _ => source
  | .ended source => source

def position : Stored → Nat
  | .inside _ position => position
  | .ended source => source.utf8ByteSize

def rest? : Stored → Option (List Char)
  | .inside source position => Text.slice? position source.utf8ByteSize source.toList
  | .ended _ => some []

def peek? (stored : Stored) : Option Char := stored.rest?.bind List.head?

def atEnd : Stored → Bool
  | .inside .. => false
  | .ended _ => true

-- The end is stored as soon as the next offset is not below the size.
def advance (stored : Stored) : Except Fault (Char × Stored) :=
  match stored.peek? with
  | none => .error ⟨.endOfInput "any character",⟨stored.source,stored.position⟩⟩
  | some c =>
    let next := stored.position + c.utf8Size
    .ok (c,if stored.source.utf8ByteSize ≤ next then .ended stored.source else .inside stored.source next)

def skip (stored : Stored) : Nat → Stored
  | 0 => stored
  | n + 1 =>
    match stored.advance with
    | .ok (_,next) => next.skip n
    | .error _ => stored

end Stored

namespace Cursor

variable {source : String} {cursor other : Cursor}

def stored (cursor : Cursor) : Stored := if cursor.atEnd then .ended cursor.source else .inside cursor.source cursor.position

theorem stored_start (source : String) : (start source).stored = Stored.start source := by
  unfold stored Stored.start
  have empty : (start source).atEnd = source.isEmpty := by
    rw [Bool.eq_iff_iff,split_atEnd (start_split source),start_rest]
    simp
  rw [empty]
  rfl

theorem stored_atEnd (cursor : Cursor) : cursor.stored.atEnd = cursor.atEnd := by
  unfold stored
  cases cursor.atEnd with
  | true => rfl
  | false => rfl

theorem stored_source (cursor : Cursor) : cursor.stored.source = cursor.source := by
  unfold stored
  cases cursor.atEnd with
  | true => rfl
  | false => rfl

theorem stored_position (reached : Reached source cursor) : cursor.stored.position = cursor.position := by
  obtain ⟨past,split⟩ := reached_split reached
  unfold stored
  cases ended : cursor.atEnd with
  | true =>
      have whole := split_size split
      rw [(split_atEnd split).mp ended,← split.1] at whole
      exact whole
  | false => rfl

theorem stored_rest (reached : Reached source cursor) : cursor.stored.rest? = some cursor.rest := by
  obtain ⟨past,split⟩ := reached_split reached
  unfold stored
  cases ended : cursor.atEnd with
  | true =>
      rw [(split_atEnd split).mp ended]
      rfl
  | false =>
      rw [split.1]
      exact reached_rest reached

theorem stored_peek (reached : Reached source cursor) : cursor.stored.peek? = cursor.peek? := by
  unfold Stored.peek?
  rw [stored_rest reached]
  rfl

theorem stored_advance (reached : Reached source cursor) :
    cursor.stored.advance = cursor.advance.map fun found => (found.1,found.2.stored) := by
  unfold Stored.advance
  rw [stored_peek reached,stored_source,stored_position reached]
  unfold peek? advance
  cases cursor.rest with
  | nil => rfl
  | cons c rest =>
      unfold stored atEnd
      simp only [List.head?_cons,Except.map,decide_eq_true_eq]

-- The stored form answers what the cursor does.
structure StoredAs (cursor : Cursor) (stored : Stored) : Prop where
  source : stored.source = cursor.source
  position : stored.position = cursor.position
  rest : stored.rest? = some cursor.rest
  peek : stored.peek? = cursor.peek?
  atEnd : stored.atEnd = cursor.atEnd
  advance : stored.advance = cursor.advance.map fun found => (found.1,found.2.stored)

theorem stored_as (reached : Reached source cursor) : StoredAs cursor cursor.stored where
  source := stored_source cursor
  position := stored_position reached
  rest := stored_rest reached
  peek := stored_peek reached
  atEnd := stored_atEnd cursor
  advance := stored_advance reached

theorem stored_skip (reached : Reached source cursor) (n : Nat) : (cursor.skip n).stored = cursor.stored.skip n := by
  induction n generalizing cursor with
  | zero => rfl
  | succ n ih =>
      unfold skip Stored.skip
      rw [stored_advance reached]
      cases advanced : cursor.advance with
      | error fault => rfl
      | ok found => exact ih (.advance reached advanced)

theorem reached_equal (one : Reached source cursor) (two : Reached source other) :
    cursor = other ↔ cursor.position = other.position := by
  constructor
  · intro same
    rw [same]
  · intro same
    obtain ⟨past,kept,whole,size⟩ := reached_split one
    obtain ⟨more,kept',whole',size'⟩ := reached_split two
    have first : Reads (start source) past cursor := ⟨kept,whole,size.trans (Nat.zero_add _).symm⟩
    have second : Reads (start source) more other := ⟨kept',whole',size'.trans (Nat.zero_add _).symm⟩
    exact (reads_unique first second same).2

theorem stored_equal (one : Reached source cursor) (two : Reached source other) :
    cursor.stored = other.stored ↔ cursor = other := by
  constructor
  · intro same
    apply (reached_equal one two).mpr
    rw [← stored_position one,same,stored_position two]
  · intro same
    rw [same]

end Cursor

end CommittedParsing
