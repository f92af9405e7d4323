import CommittedParsing.Proofs.Parser.Language

namespace CommittedParsing.Parser

variable {α β : Type} {language other : TextLanguage α} {refused : List Char → Prop} {test : Char → Bool}
  {values : List α} {read after : List Char}

inductive Row (language : TextLanguage α) : TextLanguage (List α) where
  | nil {after : List Char} : Row language [] [] after
  | cons {value : α} {values : List α} {read more after : List Char} : language value read (more ++ after) →
      Row language values more after → Row language (value :: values) (read ++ more) after

-- Everything that is read begins with a character that fails the test.
def Opens (test : Char → Bool) (language : TextLanguage α) : Prop :=
  ∀ value read after, language value read after → read ≠ [] ∧ Stops test read

theorem row_singleton {value : α} (spelled : language value read after) : Row language [value] read after := by
  rw [← List.append_nil read]
  apply Row.cons
  · exact spelled
  · exact .nil

theorem row_append {others : List α} {more : List Char} (row : Row language values read (more ++ after))
    (rest : Row language others more after) : Row language (values ++ others) (read ++ more) after := by
  generalize whole : more ++ after = back at row
  induction row with
  | nil => exact rest
  | cons spelled _ ih =>
      subst whole
      rw [List.append_assoc]
      apply Row.cons
      · rw [List.append_assoc]
        exact spelled
      · exact ih rfl

theorem row_absorbs {extra : List Char} (absorbs : ∀ {value read}, language value read (extra ++ after) →
    language value (read ++ extra) after) (row : Row language values read (extra ++ after)) (some : values ≠ []) :
    Row language values (read ++ extra) after := by
  generalize whole : extra ++ after = back at row
  induction row with
  | nil => exact absurd rfl some
  | @cons value others first more rest spelled row ih =>
      subst whole
      -- Before an earlier value only the text after is regrouped.
      cases others with
      | nil =>
          cases row
          rw [List.append_nil]
          exact row_singleton (absorbs spelled)
      | cons =>
          rw [List.append_assoc]
          apply Row.cons
          · rw [List.append_assoc]
            exact spelled
          · exact ih (List.cons_ne_nil _ _) rfl

theorem row_made (f : α → β) {made : List β} (row : Row (Made f language) made read after) :
    ∃ values, Row language values read after ∧ values.map f = made := by
  induction row with
  | nil => exact ⟨[],.nil,rfl⟩
  | cons spelled _ ih =>
      obtain ⟨inner,one,rfl⟩ := spelled
      obtain ⟨others,rest,rfl⟩ := ih
      exact ⟨inner :: others,.cons one rest,rfl⟩

theorem row_mono (less : ∀ value read after, language value read after → other value read after)
    (row : Row language values read after) : Row other values read after := by
  induction row with
  | nil => exact .nil
  | cons spelled _ ih => exact .cons (less _ _ _ spelled) ih

theorem opens_mono {narrower : Char → Bool} (smaller : ∀ c, narrower c = true → test c = true)
    (opens : Opens test language) : Opens narrower language := by
  intro value read after spelled
  obtain ⟨nonempty,stops⟩ := opens value read after spelled
  exact ⟨nonempty,stops_mono smaller stops⟩

theorem row_opens (opens : Opens test language) (row : Row language values read after) (some : values ≠ []) :
    read ≠ [] ∧ Stops test read := by
  cases row with
  | nil => exact absurd rfl some
  | cons spelled _ =>
      obtain ⟨nonempty,stops⟩ := opens _ _ _ spelled
      refine ⟨?_,(stops_append_nonempty nonempty).mpr stops⟩
      intro empty
      exact nonempty (List.append_eq_nil_iff.mp empty).1

theorem row_stops (opens : Opens test language) (row : Row language values read after)
    (stops : values = [] → Stops test after) : Stops test (read ++ after) := by
  cases values with
  | nil =>
      cases row
      exact stops rfl
  | cons value rest =>
      obtain ⟨nonempty,first⟩ := row_opens opens row (List.cons_ne_nil _ _)
      exact (stops_append_nonempty nonempty).mpr first

theorem items_mono (less : ∀ value read after, language value read after → other value read after)
    (items : Items language refused values read after) : Items other refused values read after := by
  induction items with
  | nil refusing => exact .nil refusing
  | cons spelled nonempty _ ih => exact .cons (less _ _ _ spelled) nonempty ih

theorem items_map (f : α → β) {made : List β} :
    Items (Made f language) refused made read after ↔
      ∃ values, Items language refused values read after ∧ values.map f = made := by
  constructor
  · intro items
    induction items with
    | nil refusing => exact ⟨[],.nil refusing,rfl⟩
    | cons spelled nonempty _ ih =>
        obtain ⟨inner,one,rfl⟩ := spelled
        obtain ⟨others,rest,rfl⟩ := ih
        exact ⟨inner :: others,.cons one nonempty rest,rfl⟩
  · intro found
    obtain ⟨values,items,rfl⟩ := found
    induction items with
    | nil refusing => exact .nil refusing
    | cons spelled nonempty _ ih => exact .cons ⟨_,spelled,rfl⟩ nonempty ih

theorem items_row (items : Items (fun value read after => language value read after ∧ Stops test after) refused values
    read after) : Row language values read after ∧ refused after ∧ (values ≠ [] → Stops test after) := by
  induction items with
  | nil refusing => exact ⟨.nil,refusing,fun some => absurd rfl some⟩
  | @cons value values read more after spelled _ items ih =>
      obtain ⟨row,refusing,ends⟩ := ih
      refine ⟨.cons spelled.1 row,refusing,fun _ => ?_⟩
      cases values with
      | nil =>
          cases items
          exact spelled.2
      | cons => exact ends (List.cons_ne_nil _ _)

theorem row_items (opens : Opens test language) (row : Row language values read after) (refusing : refused after)
    (stops : values ≠ [] → Stops test after) :
    Items (fun value read after => language value read after ∧ Stops test after) refused values read after := by
  induction row with
  | nil => exact .nil refusing
  | cons spelled row ih =>
      have last := stops (List.cons_ne_nil _ _)
      obtain ⟨nonempty,_⟩ := opens _ _ _ spelled
      have next := row_stops opens row fun _ => last
      exact .cons ⟨spelled,next⟩ nonempty (ih refusing fun _ => last)

end CommittedParsing.Parser
