import CommittedParsing.Parser.Span

namespace CommittedParsing.Cursor

-- Going on from `cursor` passes exactly the text `read` and arrives at `stop`.
def Reads (cursor : Cursor) (read : List Char) (stop : Cursor) : Prop :=
  stop.source = cursor.source ∧ cursor.rest = read ++ stop.rest ∧
    stop.position = cursor.position + Text.byteLength read

def Ahead (cursor stop : Cursor) : Prop := ∃ read, Reads cursor read stop

variable {source : String} {cursor middle stop : Cursor} {read more past after : List Char}

theorem reads_refl (cursor : Cursor) : Reads cursor [] cursor := ⟨rfl,rfl,rfl⟩

theorem reads_trans (first : Reads cursor read middle) (second : Reads middle more stop) :
    Reads cursor (read ++ more) stop := by
  obtain ⟨source₁,rest₁,position₁⟩ := first
  obtain ⟨source₂,rest₂,position₂⟩ := second
  refine ⟨source₂.trans source₁,?_,?_⟩
  · rw [rest₁,rest₂,List.append_assoc]
  · rw [position₂,position₁,Text.byteLength_append,Nat.add_assoc]

theorem ahead_refl (cursor : Cursor) : Ahead cursor cursor := ⟨[],reads_refl cursor⟩

theorem ahead_trans (first : Ahead cursor middle) (second : Ahead middle stop) : Ahead cursor stop := by
  obtain ⟨read,passed⟩ := first
  obtain ⟨more,later⟩ := second
  exact ⟨read ++ more,reads_trans passed later⟩

theorem advance_reads (cursor : Cursor) (c : Char) (next : Cursor) :
    cursor.advance = .ok (c,next) ↔ Reads cursor [c] next := by
  rw [advance_exact]
  simp only [Reads,List.cons_append,List.nil_append,Text.byteLength_cons,Text.byteLength_nil,Nat.add_zero]
  constructor
  · intro found
    obtain ⟨ahead,kept,moved⟩ := found
    exact ⟨kept,ahead,moved⟩
  · intro found
    obtain ⟨kept,ahead,moved⟩ := found
    exact ⟨ahead,kept,moved⟩

theorem advance_end (cursor : Cursor) : (∃ fault, cursor.advance = .error fault) ↔ cursor.rest = [] := by
  cases ahead : cursor.rest with
  | nil => simp [advance,ahead]
  | cons c rest => simp [advance,ahead]

theorem reads_nil : Reads cursor [] stop ↔ stop = cursor := by
  constructor
  · intro found
    obtain ⟨kept,ahead,moved⟩ := found
    cases cursor
    cases stop
    simp_all
  · intro same
    subst same
    exact reads_refl stop

theorem reads_unique {place : Cursor} (first : Reads cursor read stop) (second : Reads cursor more place)
    (same : stop.position = place.position) : read = more ∧ stop = place := by
  have width : Text.byteLength read = Text.byteLength more := by
    rw [first.2.2,second.2.2] at same
    exact Nat.add_left_cancel same
  have text : read = more := by
    calc read = Text.takeBytes (Text.byteLength read) (read ++ stop.rest) := (Text.takeBytes_front _ _).symm
      _ = Text.takeBytes (Text.byteLength more) (more ++ place.rest) := by rw [width,← first.2.1,second.2.1]
      _ = more := Text.takeBytes_front _ _
  subst text
  have rest : stop.rest = place.rest := List.append_cancel_left (first.2.1.symm.trans second.2.1)
  have source : stop.source = place.source := first.1.trans second.1.symm
  cases stop
  cases place
  simp_all

theorem reads_front (front : cursor.rest = read ++ after) : ∃ stop, Reads cursor read stop ∧ stop.rest = after :=
  ⟨⟨cursor.source,cursor.position + Text.byteLength read,after⟩,⟨rfl,front,rfl⟩,rfl⟩

theorem reads_cut (passed : Reads cursor (read ++ more) stop) :
    ∃ middle, Reads cursor read middle ∧ Reads middle more stop := by
  obtain ⟨kept,ahead,moved⟩ := passed
  rw [List.append_assoc] at ahead
  obtain ⟨middle,first,rest⟩ := reads_front ahead
  refine ⟨middle,first,kept.trans first.1.symm,rest,?_⟩
  rw [moved,first.2.2,Text.byteLength_append,Nat.add_assoc]

theorem reads_split (split : Split source past cursor) (passed : Reads cursor read stop) :
    Split source (past ++ read) stop := by
  obtain ⟨same,whole,size⟩ := split
  obtain ⟨kept,ahead,moved⟩ := passed
  exact ⟨kept.trans same,by rw [whole,ahead,List.append_assoc],by rw [moved,size,Text.byteLength_append]⟩

theorem reads_reached (reached : Reached source cursor) (passed : Reads cursor read stop) : Reached source stop := by
  obtain ⟨past,split⟩ := reached_split reached
  exact split_reached (reads_split split passed)

theorem reads_source (reached : Reached source cursor) (passed : Reads cursor read stop) : stop.source = source := by
  obtain ⟨past,split⟩ := reached_split (reads_reached reached passed)
  exact split.1

theorem reads_further (passed : Reads cursor read stop) : cursor.position < stop.position ↔ read ≠ [] := by
  rw [passed.2.2,ne_eq,← Text.byteLength_zero]
  omega

theorem ahead_position (ahead : Ahead cursor stop) : cursor.position ≤ stop.position := by
  obtain ⟨read,passed⟩ := ahead
  rw [passed.2.2]
  exact Nat.le_add_right _ _

theorem further_ahead (further : cursor.position < middle.position) (ahead : Ahead middle stop) :
    cursor.position < stop.position := Nat.lt_of_lt_of_le further (ahead_position ahead)

theorem ahead_cases (ahead : Ahead cursor stop) : stop = cursor ∨ cursor.position < stop.position := by
  obtain ⟨read,passed⟩ := ahead
  cases read with
  | nil => exact .inl (reads_nil.mp passed)
  | cons c others => exact .inr ((reads_further passed).mpr (List.cons_ne_nil c others))

-- Reading something leaves less; this is the progress that loops ask for.
theorem reads_remaining (reached : Reached source cursor) (passed : Reads cursor read stop) :
    stop.remaining < cursor.remaining ↔ read ≠ [] := by
  obtain ⟨past,split⟩ := reached_split reached
  have before := split_remaining split
  have after := split_remaining (reads_split split passed)
  rw [before,after,passed.2.1,Text.byteLength_append,ne_eq,← Text.byteLength_zero]
  omega

theorem further_less (reached : Reached source cursor) (ahead : Ahead cursor stop)
    (further : cursor.position < stop.position) : stop.remaining < cursor.remaining := by
  obtain ⟨read,passed⟩ := ahead
  exact (reads_remaining reached passed).mpr ((reads_further passed).mp further)

theorem less_further (ahead : Ahead cursor stop) (less : stop.remaining < cursor.remaining) :
    cursor.position < stop.position := by
  rcases ahead_cases ahead with rfl | further
  · exact absurd less (Nat.lt_irrefl _)
  · exact further

theorem ahead_stays (reached : Reached source cursor) (ahead : Ahead cursor stop)
    (same : ¬ stop.remaining < cursor.remaining) : stop = cursor := by
  rcases ahead_cases ahead with stayed | further
  · exact stayed
  · exact absurd (further_less reached ahead further) same

theorem reads_textUpTo (passed : Reads cursor read stop) : cursor.textUpTo stop = String.ofList read := by
  have width : stop.position - cursor.position = Text.byteLength read := by
    rw [passed.2.2]
    omega
  rw [textUpTo,width,passed.2.1,Text.takeBytes_front]

theorem reads_slice (reached : Reached source cursor) (passed : Reads cursor read stop) :
    Text.slice? cursor.position stop.position source.toList = some read := by
  obtain ⟨past,split⟩ := reached_split reached
  obtain ⟨_,whole,size⟩ := reads_split split passed
  exact (Text.slice?_exact _ _ _ _).mpr ⟨past,stop.rest,whole,split.2.2,size⟩

theorem reached_rest (reached : Reached source cursor) :
    Text.slice? cursor.position source.utf8ByteSize source.toList = some cursor.rest := by
  obtain ⟨past,split⟩ := reached_split reached
  refine (Text.slice?_exact _ _ _ _).mpr ⟨past,[],by rw [split.2.1,List.append_nil],split.2.2,?_⟩
  rw [Text.byteSize_toList,split.2.1]

theorem reached_fits (reached : Reached source cursor) : cursor.position ≤ source.utf8ByteSize := by
  obtain ⟨past,split⟩ := reached_split reached
  rw [split_size split]
  exact Nat.le_add_right _ _

theorem reached_unended (reached : Reached source cursor) :
    cursor.position < source.utf8ByteSize ↔ cursor.peek? ≠ none := by
  obtain ⟨past,split⟩ := reached_split reached
  rw [split_size split,peek?]
  cases cursor.rest with
  | nil => exact ⟨fun before => absurd before (Nat.lt_irrefl _),fun ended => absurd rfl ended⟩
  | cons c rest =>
      have positive := Text.byteLength_positive c rest
      exact ⟨fun _ => nofun,fun _ => Nat.lt_add_of_pos_right positive⟩

theorem reached_boundary (reached : Reached source cursor) : Text.isBoundary cursor.position source.toList = true := by
  obtain ⟨past,split⟩ := reached_split reached
  exact (Text.isBoundary_exact _ _).mpr ⟨past,cursor.rest,split.2⟩

theorem split_before (split : Split source past cursor) : cursor.location.before = past := by
  obtain ⟨same,whole,size⟩ := split
  rw [Location.before,location,same,whole,size,Text.takeBytes_front]

theorem reached_before (reached : Reached source cursor) :
    Text.slice? 0 cursor.position source.toList = some cursor.location.before := by
  obtain ⟨past,split⟩ := reached_split reached
  rw [split_before split]
  exact (Text.slice?_exact _ _ _ _).mpr ⟨[],cursor.rest,split.2.1,rfl,split.2.2⟩

theorem reached_lineStart (reached : Reached source cursor) : cursor.location.lineStart ≤ cursor.position := by
  obtain ⟨past,split⟩ := reached_split reached
  rw [Location.lineStart,split_before split,split.2.2]
  exact Nat.sub_le _ _

end CommittedParsing.Cursor
