import CommittedParsing.Cursor.Walk
import CommittedParsing.Proofs.Cursor.Stored

namespace CommittedParsing

namespace Cursor

variable {source : String} {past : List Char} {cursor other : Cursor} {k : Nat} {c : Char}

theorem skip_reads (cursor : Cursor) (k : Nat) : Reads cursor (cursor.rest.take k) (cursor.skip k) := by
  induction k generalizing cursor with
  | zero => exact reads_refl cursor
  | succ k ih =>
      unfold skip
      cases advanced : cursor.advance with
      | error fault =>
          rw [(advance_end cursor).mp ⟨fault,advanced⟩,List.take_nil]
          exact reads_refl cursor
      | ok found =>
          obtain ⟨c,next⟩ := found
          have first := (advance_reads cursor c next).mp advanced
          have ahead : cursor.rest = c :: next.rest := first.2.1
          rw [ahead,List.take_succ_cons]
          exact reads_trans first (ih next)

theorem skip_split (source : String) (k : Nat) : Split source (source.toList.take k) ((start source).skip k) :=
  reads_split (start_split source) (skip_reads (start source) k)

theorem skip_reached (source : String) (k : Nat) : Reached source ((start source).skip k) :=
  split_reached (skip_split source k)

theorem skip_rest (source : String) (k : Nat) : ((start source).skip k).rest = source.toList.drop k := by
  have whole : source.toList.take k ++ source.toList.drop k = source.toList.take k ++ ((start source).skip k).rest := by
    rw [List.take_append_drop]
    exact (skip_split source k).2.1
  exact (List.append_cancel_left whole).symm

theorem split_same (one : Split source past cursor) (two : Split source past other) : cursor = other := by
  apply (reached_equal (split_reached one) (split_reached two)).mpr
  rw [one.2.2,two.2.2]

theorem skip_advance (present : source.toList[k]? = some c) :
    ((start source).skip k).advance = .ok (c,(start source).skip (k + 1)) := by
  have split := skip_split source k
  have ahead : ((start source).skip k).rest.head? = some c := by
    rw [skip_rest,List.head?_drop,present]
  cases advanced : ((start source).skip k).advance with
  | error fault =>
      rw [(advance_end _).mp ⟨fault,advanced⟩] at ahead
      cases ahead
  | ok found =>
      obtain ⟨first,next⟩ := found
      rw [((advance_exact _ _ _).mp advanced).1] at ahead
      cases ahead
      have later := advance_split split advanced
      have further : source.toList.take k ++ [c] = source.toList.take (k + 1) := by
        rw [List.take_add_one,present]
        rfl
      rw [further] at later
      rw [split_same later (skip_split source (k + 1))]

theorem skip_moves (present : source.toList[k]? = some c) : (start source).skip (k + 1) ≠ (start source).skip k := by
  intro same
  have moved := ((advance_exact _ _ _).mp (skip_advance present)).2.2
  have wide := c.utf8Size_pos
  rw [same] at moved
  omega

theorem skip_ended (missing : source.toList[k]? = none) :
    ((start source).skip k).advance = .error ⟨.endOfInput "any character",⟨source,source.utf8ByteSize⟩⟩ := by
  have split := skip_split source k
  have nothing : ((start source).skip k).rest = [] := by
    rw [skip_rest]
    exact List.drop_eq_nil_iff.mpr (List.getElem?_eq_none_iff.mp missing)
  have whole := split_size split
  rw [nothing,Text.byteLength_nil,Nat.add_zero] at whole
  rw [advance,nothing,whole,location,split.1]

-- The cursor that so many advances reach from the start, and what it answers; the stored form that as many advances
-- reach answers the same.
structure Standing (source : String) (k : Nat) (cursor : Cursor) : Prop where
  place : cursor = (start source).skip k
  within : k ≤ source.length
  position : cursor.position = (String.ofList (source.toList.take k)).utf8ByteSize
  rest : cursor.rest = source.toList.drop k
  peek : cursor.peek? = source.toList[k]?
  atEnd : cursor.atEnd = true ↔ k = source.length
  advances : ∀ c next, cursor.advance = .ok (c,next) ↔ source.toList[k]? = some c ∧ next = (start source).skip (k + 1)
  ends : ∀ fault, cursor.advance = .error fault ↔
    k = source.length ∧ fault = ⟨.endOfInput "any character",⟨source,source.utf8ByteSize⟩⟩
  stored : cursor.stored = (Stored.start source).skip k
  same : StoredAs cursor cursor.stored

theorem character_missing (within : k ≤ source.length) : source.toList[k]? = none ↔ k = source.length := by
  rw [List.getElem?_eq_none_iff,String.length_toList]
  omega

theorem skip_standing (within : k ≤ source.length) : Standing source k ((start source).skip k) where
  place := rfl
  within := within
  position := by rw [(skip_split source k).2.2,Text.byteSize_ofList]
  rest := skip_rest source k
  peek := by rw [peek?,skip_rest,List.head?_drop]
  atEnd := by
    rw [split_atEnd (skip_split source k),skip_rest,List.drop_eq_nil_iff,String.length_toList]
    omega
  advances := by
    intro c next
    cases present : source.toList[k]? with
    | none => simp [skip_ended present]
    | some first =>
        rw [skip_advance present]
        simp [eq_comm]
  ends := by
    intro fault
    rw [← character_missing within]
    cases present : source.toList[k]? with
    | none =>
        rw [skip_ended present]
        simp [eq_comm]
    | some first => simp [skip_advance present]
  stored := by rw [stored_skip .start,stored_start]
  same := stored_as (skip_reached source k)

end Cursor

namespace Walk

variable {source : String} {walk : Walk} {k : Nat}

structure Tally where
  count : Nat
  saved : List Nat

-- An advance counts while a character remains, and going back takes back all that came after the save.
def Tally.step (size : Nat) (tally : Tally) : Step → Tally
  | .advance => { tally with count := if tally.count < size then tally.count + 1 else tally.count }
  | .save => { tally with saved := tally.count :: tally.saved }
  | .restore =>
    match tally.saved with
    | [] => { tally with count := 0 }
    | last :: others => ⟨last,others⟩

def netAdvances (source : String) (steps : List Step) : Nat := (steps.foldl (Tally.step source.length) ⟨0,[0]⟩).count

theorem step_advance {c : Char} (place : walk.cursor = (Cursor.start source).skip k) (present : source.toList[k]? = some c) :
    walk.step .advance = { walk with cursor := (Cursor.start source).skip (k + 1) } := by
  unfold Walk.step
  rw [place,Cursor.skip_advance present]

theorem step_ended (place : walk.cursor = (Cursor.start source).skip k) (missing : source.toList[k]? = none) :
    walk.step .advance = walk := by
  unfold Walk.step
  rw [place,Cursor.skip_ended missing]

structure Traces (source : String) (walk : Walk) (tally : Tally) : Prop where
  cursor : walk.cursor = (Cursor.start source).skip tally.count
  within : tally.count ≤ source.length
  saved : walk.saved = tally.saved.map (Cursor.start source).skip
  savedWithin : ∀ k ∈ tally.saved, k ≤ source.length

theorem start_traces (source : String) : Traces source (start source) ⟨0,[0]⟩ where
  cursor := rfl
  within := Nat.zero_le _
  saved := rfl
  savedWithin := by simp

theorem step_traces {tally : Tally} (traces : Traces source walk tally) (step : Step) :
    Traces source (walk.step step) (tally.step source.length step) := by
  obtain ⟨cursor,within,saved,savedWithin⟩ := traces
  cases step with
  | advance =>
      unfold Tally.step
      cases present : source.toList[tally.count]? with
      | none =>
          have last := (Cursor.character_missing within).mp present
          rw [step_ended cursor present,if_neg (by omega)]
          exact ⟨cursor,within,saved,savedWithin⟩
      | some c =>
          have more : tally.count < source.length := by
            apply Nat.lt_of_le_of_ne within
            intro last
            rw [(Cursor.character_missing within).mpr last] at present
            cases present
          rw [step_advance cursor present,if_pos more]
          exact ⟨rfl,more,saved,savedWithin⟩
  | save =>
      refine ⟨cursor,within,?_,List.forall_mem_cons.mpr ⟨within,savedWithin⟩⟩
      unfold Walk.step Tally.step
      rw [cursor,saved,List.map_cons]
  | restore =>
      unfold Walk.step Tally.step
      rw [saved]
      cases counts : tally.saved with
      | nil =>
          refine ⟨?_,Nat.zero_le _,rfl,List.forall_mem_nil _⟩
          rw [cursor,(Cursor.skip_split source tally.count).1]
          rfl
      | cons last others =>
          rw [counts] at savedWithin
          obtain ⟨first,rest⟩ := List.forall_mem_cons.mp savedWithin
          exact ⟨rfl,first,rfl,rest⟩

theorem run_traces {tally : Tally} (traces : Traces source walk tally) (steps : List Step) :
    Traces source (walk.run steps) (steps.foldl (Tally.step source.length) tally) := by
  induction steps generalizing walk tally with
  | nil => exact traces
  | cons step rest ih => exact ih (step_traces traces step)

theorem advance_stays {tally : Tally} (traces : Traces source walk tally) :
    (walk.step .advance).cursor = walk.cursor ↔ tally.count = source.length := by
  rw [← Cursor.character_missing traces.within]
  cases present : source.toList[tally.count]? with
  | none =>
      rw [step_ended traces.cursor present]
      exact iff_of_true rfl rfl
  | some c =>
      rw [step_advance traces.cursor present,traces.cursor]
      exact iff_of_false (Cursor.skip_moves present) (Option.some_ne_none c)

def held (walk : Walk) : List Cursor := walk.cursor :: walk.saved

theorem held_reached {tally : Tally} (traces : Traces source walk tally) {cursor : Cursor} (member : cursor ∈ walk.held) :
    Cursor.Reached source cursor := by
  unfold held at member
  rw [traces.cursor,traces.saved] at member
  rcases List.mem_cons.mp member with rfl | kept
  · exact Cursor.skip_reached source tally.count
  · obtain ⟨k,_,rfl⟩ := List.mem_map.mp kept
    exact Cursor.skip_reached source k

-- A walk stands where its net advances lead, an advance leaves it there exactly when no character is left, and the
-- cursors of walks on one source, as they are and as they are stored, are told apart by their offsets.
theorem run_standing (source : String) (steps : List Step) :
    Cursor.Standing source (netAdvances source steps) ((start source).run steps).cursor ∧
    ((((start source).run steps).step .advance).cursor = ((start source).run steps).cursor ↔
      netAdvances source steps = source.length) ∧
    ∀ others, ∀ one ∈ ((start source).run steps).held, ∀ other ∈ ((start source).run others).held,
      (one = other ↔ one.position = other.position) ∧ (one.stored = other.stored ↔ one.position = other.position) := by
  have traces := run_traces (start_traces source) steps
  have standing := Cursor.skip_standing traces.within
  rw [← traces.cursor] at standing
  refine ⟨standing,advance_stays traces,?_⟩
  intro others one first other second
  have reached := held_reached traces first
  have also := held_reached (run_traces (start_traces source) others) second
  have equal := Cursor.reached_equal reached also
  exact ⟨equal,(Cursor.stored_equal reached also).trans equal⟩

-- The advance after the save is taken back, and of the three that follow only one finds a character; the walk that
-- advances twice stands there too, behind five bytes.
theorem restored_walk_standing :
    netAdvances "å€" [.advance,.save,.advance,.restore,.advance,.advance,.advance] = 2 ∧
    Cursor.Standing "å€" 2 ((start "å€").run [.advance,.save,.advance,.restore,.advance,.advance,.advance]).cursor ∧
    ((start "å€").run [.advance,.save,.advance,.restore,.advance,.advance,.advance]).cursor =
      ((start "å€").run [.advance,.advance]).cursor ∧
    ((start "å€").run [.advance,.advance]).cursor.position = 5 := by
  have count : netAdvances "å€" [.advance,.save,.advance,.restore,.advance,.advance,.advance] = 2 := by decide
  obtain ⟨standing,_,equal⟩ := run_standing "å€" [.advance,.save,.advance,.restore,.advance,.advance,.advance]
  rw [count] at standing
  refine ⟨count,standing,?_,by decide⟩
  apply (equal [.advance,.advance] _ List.mem_cons_self _ List.mem_cons_self).1.mpr
  decide

end Walk

end CommittedParsing
