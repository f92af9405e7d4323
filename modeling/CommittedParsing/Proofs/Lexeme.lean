import CommittedParsing.Lexeme
import CommittedParsing.Proofs.Parser.Composed
import CommittedParsing.Proofs.Parser.Halting

namespace CommittedParsing.Lexeme

open CommittedParsing.Parser

theorem checkDecimal_below {digits : List Char} (all : ∀ c ∈ digits, c.isDigit = true)
    (below : Decimal.value digits < decimalLimit) : checkDecimal digits = .ok (Decimal.value digits) := by
  rw [checkDecimal,Decimal.valueBelow?_exact (by decide) all,Decimal.below?_fits below]

theorem checkDecimal_above {digits : List Char} (all : ∀ c ∈ digits, c.isDigit = true)
    (above : decimalLimit ≤ Decimal.value digits) :
    checkDecimal digits = .error ("number too large: " ++ String.ofList digits) := by
  rw [checkDecimal,Decimal.valueBelow?_exact (by decide) all,Decimal.below?_exceeds above]

theorem checkDecimal_exact {digits : List Char} (all : ∀ c ∈ digits, c.isDigit = true) (n : Nat) :
    checkDecimal digits = .ok n ↔ Decimal.value digits = n ∧ n < decimalLimit := by
  by_cases below : Decimal.value digits < decimalLimit
  · rw [checkDecimal_below all below,Except.ok.injEq]
    exact ⟨fun same => ⟨same,same ▸ below⟩,And.left⟩
  · rw [checkDecimal_above all (Nat.le_of_not_lt below)]
    simp only [reduceCtorEq,false_iff,not_and]
    exact fun same fits => below (same ▸ fits)

theorem checkDecimal_refuses {digits : List Char} {message : String} (all : ∀ c ∈ digits, c.isDigit = true)
    (refused : checkDecimal digits = .error message) : decimalLimit ≤ Decimal.value digits := by
  apply Nat.le_of_not_lt
  intro below
  rw [checkDecimal_below all below] at refused
  cases refused

theorem decimal_accepts : Accepts decimal fun n read after =>
    Run Char.isDigit read ∧ Decimal.value read = n ∧ n < decimalLimit ∧ Stops Char.isDigit after := by
  refine accepts_congr (tryMap_accepts checkDecimal run1_accepts) fun n read after => ?_
  constructor
  · intro accepted
    obtain ⟨_,⟨rfl,run,stops⟩,checked⟩ := accepted
    obtain ⟨same,below⟩ := (checkDecimal_exact run.2 _).mp checked
    exact ⟨run,same,below,stops⟩
  · intro spelled
    obtain ⟨run,same,below,stops⟩ := spelled
    exact ⟨read,⟨rfl,run,stops⟩,(checkDecimal_exact run.2 _).mpr ⟨same,below⟩⟩

theorem decimal_nonempty : Nonempty fun n read after =>
    Run Char.isDigit read ∧ Decimal.value read = n ∧ n < decimalLimit ∧ Stops Char.isDigit after :=
  fun _ _ spelled => spelled.1.1 rfl

theorem decimal_refuses : Refuses decimal (Stops Char.isDigit) :=
  tryMap_refuses _ run1_accepts (fun _ _ spelled => spelled.2.1.1 rfl) run1_refuses

def isFeed (c : Char) : Bool := c == '\n'

def isBlank (c : Char) : Bool := c == ' ' || c == '\n'

def isMarker (c : Char) : Bool := c == ';' || c == '#'

def isInLine (c : Char) : Bool := c != '\n'

def EndsLine (text : List Char) : Prop := text = [] ∨ ∃ more, text = '\n' :: more

def Comment : TextLanguage ((Char × List Char) × Unit) := fun ((marker,body),_) read after => ∃ blanks,
  read = marker :: (body ++ blanks) ∧ isMarker marker = true ∧ (∀ c ∈ body, isInLine c = true) ∧
  EndsLine (blanks ++ after) ∧ ∀ c ∈ blanks, isBlank c = true

theorem endsLine_stops {text : List Char} : EndsLine text ↔ Stops isInLine text := by
  unfold EndsLine
  cases text with
  | nil => simp [stops_nil]
  | cons c rest => simp [stops_cons,isInLine]

theorem blanks_test : (" \n".toList.contains ·) = isBlank := by
  funext c
  rw [Bool.eq_iff_iff]
  simp [isBlank]

theorem markers_test : (commentMarkers.toList.contains ·) = isMarker := by
  funext c
  rw [Bool.eq_iff_iff]
  simp [isMarker,commentMarkers]

theorem skipWhitespace_accepts : Accepts skipWhitespace fun _ read after =>
    (∀ c ∈ read, isBlank c = true) ∧ Stops isBlank after := by
  unfold skipWhitespace oneOf
  rw [blanks_test]
  refine accepts_congr (map_accepts _ run_accepts) fun value read after => ?_
  constructor
  · intro accepted
    obtain ⟨_,⟨_,all,stops⟩,_⟩ := accepted
    exact ⟨all,stops⟩
  · intro spelled
    obtain ⟨all,stops⟩ := spelled
    exact ⟨read,⟨rfl,all,stops⟩,rfl⟩

theorem skipLineEnds_accepts : Accepts skipLineEnds fun _ read after =>
    (∀ c ∈ read, isFeed c = true) ∧ Stops isFeed after := by
  refine accepts_congr (map_accepts _ run_accepts) fun value read after => ?_
  constructor
  · intro accepted
    obtain ⟨_,⟨_,all,stops⟩,_⟩ := accepted
    exact ⟨all,stops⟩
  · intro spelled
    obtain ⟨all,stops⟩ := spelled
    exact ⟨read,⟨rfl,all,stops⟩,rfl⟩

theorem inLine_accepts : Accepts (many nonNewline) fun values read after =>
    values = read ∧ (∀ c ∈ read, isInLine c = true) ∧ Stops isInLine after := run_accepts

theorem marker_accepts : Accepts (oneOf commentMarkers) fun c read _ => read = [c] ∧ isMarker c = true := by
  unfold oneOf
  rw [markers_test]
  exact satisfy_accepts _ _

theorem marker_refuses : Refuses (oneOf commentMarkers) (Stops isMarker) := by
  unfold oneOf
  rw [markers_test]
  exact satisfy_refuses _ _

theorem comment_accepts : Accepts comment fun value read after => Comment value read after ∧ Stops isBlank after := by
  have line := pair_accepts marker_accepts inLine_accepts
  refine accepts_congr (pair_accepts line skipWhitespace_accepts) fun value read after => ?_
  obtain ⟨⟨marker,body⟩,_⟩ := value
  constructor
  · intro accepted
    obtain ⟨_,blanks,rfl,⟨_,_,rfl,⟨rfl,marks⟩,rfl,inLine,ends⟩,all,stops⟩ := accepted
    exact ⟨⟨blanks,rfl,marks,inLine,endsLine_stops.mpr ends,all⟩,stops⟩
  · intro spelled
    obtain ⟨⟨blanks,rfl,marks,inLine,ends,all⟩,stops⟩ := spelled
    exact ⟨marker :: body,blanks,rfl,⟨[marker],body,rfl,⟨rfl,marks⟩,rfl,inLine,endsLine_stops.mp ends⟩,all,stops⟩

theorem comment_refuses : Refuses comment (Stops isMarker) := by
  have first : Refuses ((oneOf commentMarkers).pair (many nonNewline)) (Stops isMarker) :=
    pair_refuses marker_accepts satisfy_nonempty marker_refuses
  exact pair_refuses (pair_accepts marker_accepts inLine_accepts) (then_nonempty satisfy_nonempty) first

theorem marker_passes {test : Char → Bool} {result : Bool} {c : Char} (semicolon : test ';' = result)
    (hash : test '#' = result) (marks : isMarker c = true) : test c = result := by
  rcases Bool.or_eq_true_iff.mp marks with first | second
  · rw [beq_iff_eq.mp first]
    exact semicolon
  · rw [beq_iff_eq.mp second]
    exact hash

theorem marker_not_blank {c : Char} (marks : isMarker c = true) : isBlank c = false := marker_passes rfl rfl marks

theorem comment_opens : Opens isBlank Comment := by
  intro value read after spelled
  obtain ⟨blanks,rfl,marks,_⟩ := spelled
  exact ⟨List.cons_ne_nil _ _,stops_cons.mpr (marker_not_blank marks)⟩

theorem skipComments_accepts : Accepts skipComments fun _ read after =>
    ∃ comments, Row Comment comments read after ∧ Stops isMarker after ∧ (comments ≠ [] → Stops isBlank after) := by
  refine accepts_congr (map_accepts _ (many_accepts comment_accepts comment_refuses)) fun value read after => ?_
  constructor
  · intro accepted
    obtain ⟨comments,items,_⟩ := accepted
    exact ⟨comments,items_row items⟩
  · intro spelled
    obtain ⟨comments,row,refusing,stops⟩ := spelled
    exact ⟨comments,row_items comment_opens row refusing stops,rfl⟩

-- A number of this size or more, as long as its digits go on, in the place of a number.
abbrev Oversized (limit : Nat) : FailureLanguage := fun read cause after => read = [] ∧ (∃ message, cause = .rejected message) ∧
  ∃ run rest, after = run ++ rest ∧ Run Char.isDigit run ∧ Stops Char.isDigit rest ∧ limit ≤ Decimal.value run

theorem decimal_halts : Halts decimal fun read cause after =>
    Missing Char.isDigit read cause after ∨ Oversized decimalLimit read cause after := by
  have digits : Accepts (many1 digit) _ := run1_accepts
  refine halts_mono (tryMap_halts checkDecimal digits run1_halts) ?_
  intro read cause after halted
  rcases halted with missing | ⟨rfl,_,message,run,rest,rfl,⟨rfl,digits,stops⟩,refused,rfl⟩
  · exact .inl missing
  · exact .inr ⟨rfl,⟨message,rfl⟩,_,rest,rfl,digits,stops,checkDecimal_refuses digits.2 refused⟩

theorem skipWhitespace_halts : Halts skipWhitespace Never := map_halts _ run_halts

theorem skipLineEnds_halts : Halts skipLineEnds Never := map_halts _ run_halts

theorem marker_halts : Halts (oneOf commentMarkers) (Missing isMarker) := by
  unfold oneOf
  rw [markers_test]
  exact satisfy_halts _ _

theorem comment_halts : Halts comment (Missing isMarker) :=
  pair_settled (pair_accepts marker_accepts inLine_accepts) (pair_settled marker_accepts marker_halts run_halts)
    skipWhitespace_halts

theorem skipComments_halts : Halts skipComments Never := by
  have nonempty : Nonempty fun value read after => Comment value read after ∧ Stops isBlank after :=
    fun _ _ spelled => (comment_opens _ _ _ spelled.1).1 rfl
  exact map_halts _ (many_settled missing_declines comment_accepts nonempty comment_refuses comment_halts)

section Composed

variable {allowed : Allowance}

theorem skipWhitespace_composed : Composed allowed skipWhitespace := .map _ (.many (.satisfy _ _))

theorem skipLineEnds_composed : Composed allowed skipLineEnds := .map _ (.many (.satisfy _ _))

theorem comment_composed : Composed allowed comment :=
  .pair (.pair (.satisfy _ _) (.many (.satisfy _ _))) skipWhitespace_composed

theorem skipComments_composed : Composed allowed skipComments := .map _ (.many comment_composed)

end Composed

end CommittedParsing.Lexeme
