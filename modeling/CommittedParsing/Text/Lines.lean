namespace CommittedParsing.Text

def lines : List Char → List (List Char)
  | [] => [[]]
  | c :: rest =>
    if c = '\n' then [] :: lines rest
    else match lines rest with
      | [] => [[c]]
      | first :: others => (c :: first) :: others

def lastLine (text : List Char) : List Char := (text.reverse.takeWhile (· ≠ '\n')).reverse

theorem lines_nonempty (text : List Char) : lines text ≠ [] := by
  cases text with
  | nil => simp [lines]
  | cons c rest =>
      simp only [lines]
      split
      · simp
      · split <;> simp

theorem lines_feed (rest : List Char) : lines ('\n' :: rest) = [] :: lines rest := by simp [lines]

theorem lines_char {c : Char} {rest first : List Char} {others : List (List Char)} (inner : c ≠ '\n')
    (known : lines rest = first :: others) : lines (c :: rest) = (c :: first) :: others := by
  simp [lines,inner,known]

theorem lines_length (text : List Char) : (lines text).length = text.count '\n' + 1 := by
  induction text with
  | nil => rfl
  | cons c rest ih =>
      by_cases feed : c = '\n'
      · simp [lines,feed,ih]
      · cases known : lines rest with
        | nil => exact absurd known (lines_nonempty rest)
        | cons first others =>
            rw [lines_char feed known]
            simp only [known,List.length_cons] at ih
            simp [feed,ih]

theorem lines_inner (text : List Char) : ∀ piece ∈ lines text, '\n' ∉ piece := by
  induction text with
  | nil => simp [lines]
  | cons c rest ih =>
      by_cases feed : c = '\n'
      · simpa [lines,feed] using ih
      · cases known : lines rest with
        | nil => exact absurd known (lines_nonempty rest)
        | cons first others =>
            rw [known] at ih
            rw [lines_char feed known]
            intro piece member
            rcases List.mem_cons.mp member with rfl | later
            · simp [Ne.symm feed,ih first (by simp)]
            · exact ih piece (by simp [later])

theorem lines_join (text : List Char) : ['\n'].intercalate (lines text) = text := by
  induction text with
  | nil => rfl
  | cons c rest ih =>
      cases known : lines rest with
      | nil => exact absurd known (lines_nonempty rest)
      | cons first others =>
          rw [known] at ih
          by_cases feed : c = '\n'
          · rw [feed,lines_feed,known,List.intercalate_cons_cons,ih]
            rfl
          · rw [lines_char feed known]
            cases others with
            | nil => simpa using ih
            | cons second more =>
                rw [List.intercalate_cons_cons] at ih ⊢
                simpa using ih

theorem lines_append (front rest : List Char) : lines (front ++ '\n' :: rest) = lines front ++ lines rest := by
  induction front with
  | nil => exact lines_feed rest
  | cons c front ih =>
      by_cases feed : c = '\n'
      · rw [feed,List.cons_append,lines_feed,lines_feed,ih]
        rfl
      · cases known : lines front with
        | nil => exact absurd known (lines_nonempty front)
        | cons first others =>
            rw [known] at ih
            rw [List.cons_append,lines_char feed ih,lines_char feed known]
            rfl

theorem lines_single {text : List Char} (inner : '\n' ∉ text) : lines text = [text] := by
  induction text with
  | nil => rfl
  | cons c rest ih =>
      have other : c ≠ '\n' := fun feed => inner (feed ▸ List.mem_cons_self)
      exact lines_char other (ih fun member => inner (List.mem_cons_of_mem c member))

theorem lines_front {front : List Char} (rest : List Char) (inner : '\n' ∉ front) :
    lines (front ++ '\n' :: rest) = front :: lines rest := by
  rw [lines_append,lines_single inner]
  rfl

theorem lastLine_feed (front tail : List Char) (inner : '\n' ∉ tail) :
    lastLine (front ++ '\n' :: tail) = tail := by
  have all : ∀ c ∈ tail.reverse, (decide (c ≠ '\n')) = true := by
    intro c member
    simp only [List.mem_reverse] at member
    exact decide_eq_true fun feed => inner (feed ▸ member)
  rw [lastLine,List.reverse_append,List.reverse_cons,List.append_assoc,List.takeWhile_append_of_pos all]
  simp

theorem lastLine_whole (text : List Char) (inner : '\n' ∉ text) : lastLine text = text := by
  have all : ∀ c ∈ text.reverse, (decide (c ≠ '\n')) = true := by
    intro c member
    simp only [List.mem_reverse] at member
    exact decide_eq_true fun feed => inner (feed ▸ member)
  have taken : (text.reverse ++ []).takeWhile (· ≠ '\n') = text.reverse ++ [].takeWhile (· ≠ '\n') :=
    List.takeWhile_append_of_pos all
  rw [List.append_nil,List.takeWhile_nil,List.append_nil] at taken
  rw [lastLine,taken,List.reverse_reverse]

end CommittedParsing.Text
