import CommittedParsing.Proofs.Ini.Lines

namespace CommittedParsing.Ini

open CommittedParsing.Parser CommittedParsing.Lexeme

variable {α : Type}

def Unfinished (language : TextLanguage α) (read : List Char) : Prop :=
  ∃ more value, ∀ after, language value (read ++ more) after

-- The text read is unfinished, and the cause says what follows instead.
abbrev Midway (language : TextLanguage α) : FailureLanguage := fun read cause after =>
  Unfinished language read ∧ Tells cause after

section Headers

abbrev HeaderText : TextLanguage String := fun text read _ =>
  read = '[' :: (text.toList ++ [']']) ∧ Run Char.isAlpha text.toList

theorem name_halts : Halts (many1 letter).recognize (Missing Char.isAlpha) := recognize_halts run1_halts

theorem header_halts : Halts header (Midway HeaderText) := by
  have opened := satisfy_halts (· == '[') (Text.quotedChar '[')
  have closed := satisfy_halts (· == ']') (Text.quotedChar ']')
  refine halts_mono (between_halts (char_accepts '[') name_accepts opened name_halts closed) ?_
  intro read cause after halted
  have single : Run Char.isAlpha "a".toList := by decide
  rcases halted with (⟨rfl,_,tells⟩ | ⟨_,_,_,rfl,⟨rfl,_⟩,rfl,_,tells⟩) | ⟨⟨_,text⟩,_,_,rfl,⟨_,_,rfl,⟨rfl,_⟩,rfl,run,_⟩,rfl,_,tells⟩
  · exact ⟨⟨"[a]".toList,"a",fun _ => ⟨rfl,single⟩⟩,tells⟩
  · exact ⟨⟨"a]".toList,"a",fun _ => ⟨rfl,single⟩⟩,tells⟩
  · exact ⟨⟨"]".toList,text,fun _ => ⟨by simp,run⟩⟩,tells⟩

end Headers

section Rows

variable {language : TextLanguage α} {refused : List Char → Prop} {read after : List Char} {cause : Cause}

abbrev Rows (language : TextLanguage α) : TextLanguage (List α) := fun values read after =>
  values ≠ [] ∧ Row language values read after

theorem midway_rows (midway : Midway language read cause after) : Midway (Rows language) read cause after := by
  obtain ⟨⟨more,value,spelled⟩,tells⟩ := midway
  exact ⟨⟨more,[value],fun after => ⟨List.cons_ne_nil _ _,row_singleton (spelled after)⟩⟩,tells⟩

theorem inRow_midway (bounded : LineBound language) (apart : ∀ text, EndsLine text → refused text)
    (halted : InRow language refused (Midway language) read cause after) : Midway (Rows language) read cause after := by
  obtain ⟨values,front,back,rfl,row,refusing,⟨more,value,spelled⟩,tells⟩ := halted
  refine ⟨⟨more,values ++ [value],fun other => ⟨by simp,?_⟩⟩,tells⟩
  rw [List.append_assoc]
  refine row_append (row_lineBound bounded row ?_) (row_singleton (spelled other))
  exact .inr (.inr fun ends => absurd (apart _ ends) refusing)

theorem endsLine_apart {test : Char → Bool} (feed : test '\n' = false) (text : List Char) (ends : EndsLine text) :
    Stops test text := by
  rcases ends with rfl | ⟨rest,rfl⟩
  · exact stops_nil
  · exact stops_cons.mpr feed

end Rows

section Sections

theorem assignment_finished {name : String} (named : Run Char.isAlpha name.toList) (after : List Char) :
    Assignment (name,"1") (name.toList ++ "=1\n".toList) after :=
  ⟨['\n'],rfl,named,by decide,.inr ⟨_,rfl⟩,by simp [isFeed]⟩

theorem assignment_halts : Halts assignment (Midway Assignment) := by
  have naming := left_accepts name_accepts (char_accepts '=')
  have named := left_halts name_accepts name_halts (satisfy_halts (· == '=') (Text.quotedChar '='))
  have valued : Halts (many1 nonNewline).recognize (Missing isInLine) := recognize_halts run1_halts
  have parts := pair_halts naming named valued
  refine halts_mono (left_settled (pair_accepts naming value_accepts) parts skipLineEnds_halts) ?_
  intro read cause after halted
  rcases halted with (⟨rfl,_,tells⟩ | ⟨name,_,_,rfl,⟨rfl,run,_⟩,rfl,_,tells⟩) |
    ⟨name,_,_,rfl,⟨_,_,rfl,⟨rfl,run,_⟩,_,rfl,_⟩,rfl,_,tells⟩
  · exact ⟨⟨"a=1\n".toList,("a","1"),assignment_finished (by decide)⟩,tells⟩
  · rw [List.append_nil]
    exact ⟨⟨"=1\n".toList,(name,"1"),assignment_finished run⟩,tells⟩
  · refine ⟨⟨"1\n".toList,(name,"1"),fun after => ?_⟩,tells⟩
    have whole : name.toList ++ ['='] ++ [] ++ "1\n".toList = name.toList ++ "=1\n".toList := by simp
    rw [whole]
    exact assignment_finished run after

theorem assignments_halts : Halts (many1 assignment) (Midway (Rows Assignment)) := by
  refine halts_mono (many1_halts assignment_accepts assignment_nonempty assignment_refuses assignment_halts) ?_
  intro read cause after halted
  rcases halted with missed | ⟨values,front,back,cut,row,stopped⟩
  · exact midway_rows missed
  · have kept := row_mono (fun _ _ _ spelled => And.left spelled) row
    exact inRow_midway assignment_lineBound (endsLine_apart rfl) ⟨values,front,back,cut,kept,stopped⟩

theorem sectionBody_halts : Halts sectionBody (Midway SectionText) := by
  have opening := left_accepts header_accepts skipLineEnds_accepts
  have opened := left_settled header_accepts header_halts skipLineEnds_halts
  refine halts_mono (mapReporting_halts Section.ofAssignments (pair_halts opening opened assignments_halts)) ?_
  intro read cause after halted
  rcases halted with ⟨⟨more,text,spelled⟩,tells⟩ |
    ⟨text,_,back,rfl,⟨_,feeds,rfl,⟨rfl,run⟩,_,fed,_⟩,⟨more,pairs,spelled⟩,tells⟩
  · refine ⟨⟨more ++ "a=1\n".toList,(text,[("a","1")]),fun after => ?_⟩,tells⟩
    obtain ⟨same,run⟩ := spelled after
    refine ⟨[],"a=1\n".toList,?_,run,by simp,List.cons_ne_nil _ _,row_singleton (assignment_finished (by decide) after)⟩
    rw [← List.append_assoc,same]
    simp
  · refine ⟨⟨more,(text,pairs),fun after => ?_⟩,tells⟩
    obtain ⟨some,row⟩ := spelled after
    exact ⟨feeds,back ++ more,by simp,run,fed,some,row⟩

theorem section_padded {read after : List Char} {cause : Cause} (midway : Midway SectionText read cause after) :
    Midway Padded read cause after := by
  obtain ⟨⟨more,entry,spelled⟩,tells⟩ := midway
  exact ⟨⟨more,entry,fun after => ⟨_,[],(List.append_nil _).symm,spelled after,trivia_nil⟩⟩,tells⟩

theorem skipTrivia_halts : Halts skipTrivia Never := by
  refine halts_mono (right_halts skipWhitespace_accepts skipWhitespace_halts skipComments_halts) ?_
  intro read cause after halted
  rcases halted with impossible | ⟨_,_,_,_,_,impossible⟩
  · exact impossible
  · exact impossible

theorem sections_halts : Halts (many1 (sectionBody.left skipTrivia)) (Midway (Rows Padded)) := by
  have single := left_settled sectionBody_accepts sectionBody_halts skipTrivia_halts
  have nonempty := made_nonempty Config.sectionOf greedy_nonempty
  refine halts_mono (many1_halts padded_accepts nonempty padded_refuses single) ?_
  intro read cause after halted
  rcases halted with missed | ⟨_,front,back,cut,row,refusing,missed⟩
  · exact midway_rows (section_padded missed)
  · obtain ⟨entries,greedy,_⟩ := row_made Config.sectionOf row
    have padded := row_mono (fun _ _ _ spelled => (greedy_padded spelled).1) greedy
    exact inRow_midway padded_lineBound (endsLine_apart rfl) ⟨entries,front,back,cut,padded,refusing,section_padded missed⟩

end Sections

section Documents

-- Leading trivia keeps its last line when a section comes next; where nothing was read, a line feed ends it.
theorem document_midway {gap read after : List Char} {cause : Cause} (trivia : Trivia gap (read ++ after))
    (midway : Midway (Rows Padded) read cause after) :
    (∃ more entries, Document entries (gap ++ read ++ more)) ∧ Tells cause after := by
  obtain ⟨⟨more,entries,spelled⟩,tells⟩ := midway
  obtain ⟨some,row⟩ := spelled []
  refine ⟨?_,tells⟩
  cases read with
  | nil =>
      have ended : Trivia gap (['\n'] ++ more) := trivia_lineBound trivia (.inr (.inr fun _ => .inr ⟨more,rfl⟩))
      have feed : Trivia ['\n'] more := trivia_blanks (by simp [isBlank])
      exact ⟨'\n' :: more,entries,gap ++ ['\n'],more,by simp,trivia_append ended feed,some,row⟩
  | cons c rest =>
      have kept : Trivia gap (c :: rest ++ more) := by
        refine trivia_lineBound trivia (.inr (.inr ?_))
        simp [EndsLine]
      exact ⟨more,entries,gap,c :: rest ++ more,List.append_assoc _ _ _,kept,some,row⟩

theorem document_halts : Halts document fun read cause after =>
    (∃ more entries, Document entries (read ++ more)) ∧ Tells cause after := by
  refine halts_mono (mapReporting_halts Config.ofSections (right_halts skipTrivia_accepts skipTrivia_halts sections_halts)) ?_
  intro read cause after halted
  rcases halted with impossible | ⟨_,gap,back,rfl,⟨trivia,_⟩,midway⟩
  · exact impossible.elim
  · exact document_midway trivia midway

end Documents

section Composed

variable {allowed : Allowance}

theorem header_composed : Composed allowed header :=
  .between (.satisfy _ _) (.recognize (.many1 (.satisfy _ _))) (.satisfy _ _)

theorem assignment_composed : Composed allowed assignment := by
  have naming : Composed allowed ((many1 letter).recognize.left (char '=')) :=
    composed_left (.recognize (.many1 (.satisfy _ _))) (.satisfy _ _)
  exact composed_left (.pair naming (.recognize (.many1 (.satisfy _ _)))) skipLineEnds_composed

theorem sectionBody_composed : Composed allowed sectionBody :=
  .mapReporting _ (.pair (composed_left header_composed skipLineEnds_composed) (.many1 assignment_composed))

theorem skipTrivia_composed : Composed allowed skipTrivia := composed_right skipWhitespace_composed skipComments_composed

theorem sections_composed : Composed allowed (many1 (sectionBody.left skipTrivia)) :=
  .many1 (composed_left sectionBody_composed skipTrivia_composed)

theorem document_composed : Composed allowed document :=
  .mapReporting _ (composed_right skipTrivia_composed sections_composed)

end Composed

end CommittedParsing.Ini
