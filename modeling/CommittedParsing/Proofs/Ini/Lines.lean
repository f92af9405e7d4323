import CommittedParsing.Proofs.Ini.Document

namespace CommittedParsing.Ini

open CommittedParsing.Parser CommittedParsing.Lexeme

variable {α : Type}

def Settled (read after other : List Char) : Prop :=
  read = [] ∨ read.getLast? = some '\n' ∨ (EndsLine after → EndsLine other)

-- What is read depends on the text after only where a line has to end.
def LineBound (language : TextLanguage α) : Prop :=
  ∀ ⦃value read after other⦄, language value read after → Settled read after other → language value read other

inductive Filler : List Char → Prop where
  | nil : Filler []
  | blank {c : Char} {rest : List Char} : isBlank c = true → Filler rest → Filler (c :: rest)
  | line {marker : Char} {body rest : List Char} : isMarker marker = true → (∀ c ∈ body, isInLine c = true) →
      Filler rest → Filler (marker :: (body ++ '\n' :: rest))

section Settled

variable {front back feeds after other : List Char}

theorem endsLine_append (ends : EndsLine after → EndsLine other) : EndsLine (front ++ after) → EndsLine (front ++ other) := by
  cases front with
  | nil => exact ends
  | cons c rest => simp [EndsLine]

theorem settled_front (settled : Settled (front ++ back) after other) :
    Settled front (back ++ after) (back ++ other) := by
  cases back with
  | nil =>
      rw [List.append_nil] at settled
      exact settled
  | cons c rest => exact .inr (.inr (by simp [EndsLine]))

theorem settled_back (settled : Settled (front ++ back) after other) : Settled back after other := by
  rcases settled with empty | last | ends
  · exact .inl (List.append_eq_nil_iff.mp empty).2
  · cases back with
    | nil => exact .inl rfl
    | cons c rest => exact .inr (.inl (by simpa using last))
  · exact .inr (.inr ends)

theorem endsLine_settled (some : front ≠ []) (inLine : ∀ c ∈ front, isInLine c = true) (ends : EndsLine (feeds ++ after))
    (settled : Settled (front ++ feeds) after other) : EndsLine (feeds ++ other) := by
  rcases settled with empty | last | kept
  · exact absurd (List.append_eq_nil_iff.mp empty).1 some
  · cases feeds with
    | nil =>
        rw [List.append_nil] at last
        exact absurd (inLine _ (List.mem_of_getLast? last)) (by decide)
    | cons c rest => simpa [EndsLine] using ends
  · exact endsLine_append kept ends

end Settled

section Bounded

variable {language : TextLanguage α}

theorem row_lineBound (bounded : LineBound language) : LineBound (Row language) := by
  intro values read after other row settled
  induction row with
  | nil => exact .nil
  | cons spelled _ ih => exact .cons (bounded spelled (settled_front settled)) (ih (settled_back settled))

theorem comment_lineBound : LineBound Comment := by
  intro value read after other spelled settled
  obtain ⟨blanks,rfl,marks,inLine,ends,all⟩ := spelled
  have marked : isInLine value.1.1 = true := marker_passes rfl rfl marks
  rw [← List.cons_append] at settled
  exact ⟨blanks,rfl,marks,inLine,
    endsLine_settled (List.cons_ne_nil _ _) (List.forall_mem_cons.mpr ⟨marked,inLine⟩) ends settled,all⟩

theorem assignment_lineBound : LineBound Assignment := by
  intro entry read after other spelled settled
  obtain ⟨feeds,rfl,named,valued,ends,fed⟩ := spelled
  have value : Settled (entry.2.toList ++ feeds) after other := by
    rw [← List.singleton_append,← List.append_assoc] at settled
    exact settled_back settled
  exact ⟨feeds,rfl,named,valued,endsLine_settled valued.1 valued.2 ends value,fed⟩

theorem trivia_lineBound {gap after other : List Char} (trivia : Trivia gap after) (settled : Settled gap after other) :
    Trivia gap other := by
  obtain ⟨blanks,rest,comments,rfl,all,row⟩ := trivia
  exact ⟨blanks,rest,comments,rfl,all,row_lineBound comment_lineBound row (settled_back settled)⟩

theorem section_lineBound : LineBound SectionText := by
  intro entry read after other spelled settled
  obtain ⟨feeds,body,rfl,run,fed,some,row⟩ := spelled
  have whole : '[' :: (entry.1.toList ++ ']' :: (feeds ++ body)) = '[' :: (entry.1.toList ++ ']' :: feeds) ++ body := by
    simp
  rw [whole] at settled
  have last := settled_back settled
  exact ⟨feeds,body,rfl,run,fed,some,row_lineBound assignment_lineBound row last⟩

theorem padded_lineBound : LineBound Padded := by
  intro entry read after other padded settled
  obtain ⟨body,gap,rfl,spelled,trivia⟩ := padded
  exact ⟨body,gap,rfl,section_lineBound spelled (settled_front settled),trivia_lineBound trivia (settled_back settled)⟩

end Bounded

section Together

variable {gap more blanks after : List Char}

theorem trivia_nil : Trivia [] after := ⟨[],[],[],rfl,by simp,.nil⟩

theorem trivia_blanks (all : ∀ c ∈ blanks, isBlank c = true) : Trivia blanks after :=
  ⟨blanks,[],[],(List.append_nil _).symm,all,.nil⟩

theorem comment_absorbs {value : (Char × List Char) × Unit} {read : List Char} (all : ∀ c ∈ blanks, isBlank c = true)
    (spelled : Comment value read (blanks ++ after)) : Comment value (read ++ blanks) after := by
  obtain ⟨own,rfl,marks,inLine,ends,blank⟩ := spelled
  refine ⟨own ++ blanks,by simp,marks,inLine,?_,List.forall_mem_append.mpr ⟨blank,all⟩⟩
  rw [List.append_assoc]
  exact ends

-- Trivia before trivia is trivia: blanks go to the last comment, if there is one, and further comments follow.
theorem trivia_append (trivia : Trivia gap (more ++ after)) (further : Trivia more after) : Trivia (gap ++ more) after := by
  obtain ⟨blanks,rest,comments,rfl,all,row⟩ := trivia
  obtain ⟨others,later,remarks,rfl,blank,lines⟩ := further
  cases comments with
  | nil =>
      cases row
      exact ⟨blanks ++ others,later,remarks,by simp,List.forall_mem_append.mpr ⟨all,blank⟩,lines⟩
  | cons =>
      rw [List.append_assoc] at row
      have absorbed := row_absorbs (fun spelled => comment_absorbs blank spelled) row (List.cons_ne_nil _ _)
      exact ⟨blanks,_,_,by simp,all,row_append absorbed lines⟩

theorem padded_absorbs {entry : Config.Written} {read : List Char} (trivia : Trivia gap after)
    (padded : Padded entry read (gap ++ after)) : Padded entry (read ++ gap) after := by
  obtain ⟨body,own,rfl,spelled,before⟩ := padded
  rw [← List.append_assoc] at spelled
  exact ⟨body,own ++ gap,List.append_assoc _ _ _,spelled,trivia_append before trivia⟩

theorem filler_trivia (filler : Filler gap) (after : List Char) : Trivia gap after := by
  induction filler with
  | nil => exact trivia_nil
  | @blank c rest blank _ ih =>
      have first : Trivia [c] (rest ++ after) := trivia_blanks (by simpa using blank)
      exact trivia_append first ih
  | @line marker body rest marks inLine _ ih =>
      have comment : Comment ((marker,body),()) (marker :: (body ++ ['\n'])) (rest ++ after) :=
        ⟨['\n'],rfl,marks,inLine,.inr ⟨_,rfl⟩,by simp [isBlank]⟩
      have first : Trivia (marker :: (body ++ ['\n'])) (rest ++ after) :=
        ⟨[],_,[((marker,body),())],rfl,by simp,row_singleton comment⟩
      have whole : marker :: (body ++ '\n' :: rest) = marker :: (body ++ ['\n']) ++ rest := by simp
      rw [whole]
      exact trivia_append first ih

end Together

end CommittedParsing.Ini
