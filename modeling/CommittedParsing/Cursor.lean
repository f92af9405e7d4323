import CommittedParsing.Failure

namespace CommittedParsing

structure Cursor where
  source : String
  position : Nat
  rest : List Char
deriving DecidableEq

namespace Cursor

def start (source : String) : Cursor := ⟨source,0,source.toList⟩

def peek? (cursor : Cursor) : Option Char := cursor.rest.head?

def atEnd (cursor : Cursor) : Bool := decide (cursor.source.utf8ByteSize ≤ cursor.position)

def location (cursor : Cursor) : Location := ⟨cursor.source,cursor.position⟩

def advance (cursor : Cursor) : Except Fault (Char × Cursor) :=
  match cursor.rest with
  | [] => .error ⟨.endOfInput "any character",cursor.location⟩
  | c :: rest => .ok (c,{ cursor with position := cursor.position + c.utf8Size, rest := rest })

def skip (cursor : Cursor) : Nat → Cursor
  | 0 => cursor
  | n + 1 =>
    match cursor.advance with
    | .ok (_,next) => next.skip n
    | .error _ => cursor

-- Bytes still to read; every step that consumes makes it smaller.
def remaining (cursor : Cursor) : Nat := cursor.source.utf8ByteSize - cursor.position

def textUpTo (start stop : Cursor) : String :=
  String.ofList (Text.takeBytes (stop.position - start.position) start.rest)

-- The past is the text already read; it and the rest are the source.
def Split (source : String) (past : List Char) (cursor : Cursor) : Prop :=
  cursor.source = source ∧ source.toList = past ++ cursor.rest ∧ cursor.position = Text.byteLength past

inductive Reached (source : String) : Cursor → Prop where
  | start : Reached source (Cursor.start source)
  | advance {cursor next : Cursor} {c : Char} : Reached source cursor → cursor.advance = .ok (c,next) →
      Reached source next

@[simp] theorem start_source (source : String) : (start source).source = source := rfl
@[simp] theorem start_position (source : String) : (start source).position = 0 := rfl
@[simp] theorem start_rest (source : String) : (start source).rest = source.toList := rfl

theorem start_split (source : String) : Split source [] (start source) := ⟨rfl,rfl,rfl⟩

theorem advance_exact (cursor : Cursor) (c : Char) (next : Cursor) :
    cursor.advance = .ok (c,next) ↔ cursor.rest = c :: next.rest ∧ next.source = cursor.source ∧
      next.position = cursor.position + c.utf8Size := by
  cases cursor with
  | mk source position rest =>
      cases next with
      | mk nextSource nextPosition nextRest =>
          cases rest with
          | nil => simp [advance]
          | cons first others =>
              simp only [advance,Except.ok.injEq,Prod.mk.injEq,mk.injEq,List.cons.injEq]
              constructor
              · rintro ⟨rfl,rfl,rfl,rfl⟩
                exact ⟨⟨rfl,rfl⟩,rfl,rfl⟩
              · rintro ⟨⟨rfl,rfl⟩,rfl,rfl⟩
                exact ⟨rfl,rfl,rfl,rfl⟩

theorem advance_split {source : String} {past : List Char} {cursor next : Cursor} {c : Char}
    (split : Split source past cursor) (advanced : cursor.advance = .ok (c,next)) :
    Split source (past ++ [c]) next := by
  obtain ⟨same,whole,size⟩ := split
  obtain ⟨ahead,kept,moved⟩ := (advance_exact _ _ _).mp advanced
  exact ⟨kept.trans same,by simp [whole,ahead],by simp [moved,size]⟩

theorem reached_split {source : String} {cursor : Cursor} (reached : Reached source cursor) :
    ∃ past, Split source past cursor := by
  induction reached with
  | start => exact ⟨[],start_split source⟩
  | advance _ advanced ih =>
      obtain ⟨past,split⟩ := ih
      exact ⟨_,advance_split split advanced⟩

theorem split_reached {source : String} {past : List Char} {cursor : Cursor} (split : Split source past cursor) :
    Reached source cursor := by
  obtain ⟨back,rfl⟩ : ∃ back, past = back.reverse := ⟨past.reverse,past.reverse_reverse.symm⟩
  induction back generalizing cursor with
  | nil =>
      obtain ⟨same,whole,size⟩ := split
      have atStart : cursor = start source := by
        cases cursor
        simp_all [start]
      exact atStart ▸ .start
  | cons c back ih =>
      obtain ⟨same,whole,size⟩ := split
      have earlier : Split source back.reverse ⟨source,Text.byteLength back.reverse,c :: cursor.rest⟩ :=
        ⟨rfl,by simp [whole],rfl⟩
      refine .advance (c := c) (ih earlier) ?_
      exact (advance_exact _ _ _).mpr ⟨rfl,same,by simp [size]⟩

theorem reached_exact (source : String) (cursor : Cursor) :
    Reached source cursor ↔ ∃ past, Split source past cursor :=
  ⟨reached_split,fun ⟨_,split⟩ => split_reached split⟩

theorem split_size {source : String} {past : List Char} {cursor : Cursor} (split : Split source past cursor) :
    source.utf8ByteSize = cursor.position + Text.byteLength cursor.rest := by
  rw [Text.byteSize_toList,split.2.1,Text.byteLength_append,split.2.2]

theorem split_remaining {source : String} {past : List Char} {cursor : Cursor} (split : Split source past cursor) :
    cursor.remaining = Text.byteLength cursor.rest := by
  have whole := split_size split
  rw [remaining,split.1,whole]
  omega

theorem split_atEnd {source : String} {past : List Char} {cursor : Cursor} (split : Split source past cursor) :
    cursor.atEnd = true ↔ cursor.rest = [] := by
  have whole := split_size split
  rw [atEnd,split.1,decide_eq_true_eq,← Text.byteLength_zero]
  omega

end Cursor

end CommittedParsing
