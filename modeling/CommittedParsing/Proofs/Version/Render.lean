import CommittedParsing.Proofs.Version.Spelling

namespace CommittedParsing

open CommittedParsing.Parser

namespace Tag

variable {tag : Tag} {tags : List Tag} {read after : List Char} {marker : Char}

theorem spelled_trimmed (spelled : tag.Spelled read) (stops : Stops Char.isDigit after) :
    Decimal.dropZeros false (read ++ after) = tag.spell ++ Decimal.dropZeros false after := by
  cases tag with
  | number n =>
      obtain ⟨⟨nonempty,all⟩,rfl,_⟩ := spelled
      exact Decimal.dropZeros_run all nonempty stops
  | text word =>
      obtain ⟨rfl,_,all⟩ := spelled
      exact Decimal.dropZeros_plain fun c member => Version.alpha_not_digit (all c member)

theorem joined_trimmed (joined : Joined tags read) (other : marker.isDigit = false) (stops : Stops Char.isDigit after) :
    Decimal.dropZeros false (marker :: (read ++ after)) = spellSection marker tags ++ Decimal.dropZeros false after := by
  induction joined generalizing marker with
  | one spelled => rw [Decimal.dropZeros_other other,spelled_trimmed spelled stops,spellSection,spellSection,
      List.append_nil,List.cons_append]
  | @more tag tags read rest spelled _ ih =>
      have point : Stops Char.isDigit ('.' :: (rest ++ after)) := stops_cons.mpr rfl
      rw [Decimal.dropZeros_other other,List.append_assoc,List.cons_append,spelled_trimmed spelled point,ih rfl,
        spellSection,List.cons_append,List.cons_append,List.append_assoc]

theorem marked_trimmed (marked : Marked marker tags read) (other : marker.isDigit = false)
    (stops : Stops Char.isDigit after) :
    Decimal.dropZeros false (read ++ after) = spellSection marker tags ++ Decimal.dropZeros false after := by
  rcases marked with ⟨rfl,rfl⟩ | ⟨body,rfl,joined⟩
  · rfl
  · exact joined_trimmed joined other stops

def Bounded : Tag → Prop
  | .number n => n < Version.numberLimit
  | .text _ => True

def Worded : Tag → Prop
  | .number _ => True
  | .text word => Run Char.isAlpha word.toList

theorem spelled_spell (bounded : tag.Bounded) (worded : tag.Worded) : tag.Spelled tag.spell := by
  cases tag with
  | number n => exact ⟨⟨Decimal.spell_nonempty n,Decimal.spell_digits n⟩,Decimal.value_spell n,bounded⟩
  | text word => exact ⟨rfl,worded⟩

theorem spelled_fits (spelled : tag.Spelled read) : tag.Bounded ∧ tag.Worded := by
  cases tag with
  | number n => exact ⟨spelled.2.2,trivial⟩
  | text word =>
      obtain ⟨rfl,run⟩ := spelled
      exact ⟨trivial,run⟩

theorem joined_fits (joined : Joined tags read) : ∀ tag ∈ tags, tag.Bounded ∧ tag.Worded := by
  induction joined with
  | one spelled => simpa using spelled_fits spelled
  | more spelled _ ih => exact List.forall_mem_cons.mpr ⟨spelled_fits spelled,ih⟩

theorem marked_fits (marked : Marked marker tags read) : ∀ tag ∈ tags, tag.Bounded ∧ tag.Worded := by
  rcases marked with ⟨rfl,_⟩ | ⟨body,_,joined⟩
  · simp
  · exact joined_fits joined

theorem joined_spell (fits : ∀ tag ∈ tags, tag.Bounded ∧ tag.Worded) (nonempty : tags ≠ []) :
    ∃ body, spellSection marker tags = marker :: body ∧ Joined tags body := by
  induction tags generalizing marker with
  | nil => exact absurd rfl nonempty
  | cons tag rest ih =>
      obtain ⟨⟨bounded,worded⟩,others⟩ := List.forall_mem_cons.mp fits
      have spelled := spelled_spell bounded worded
      by_cases last : rest = []
      · subst last
        exact ⟨tag.spell,by simp [spellSection],.one spelled⟩
      · obtain ⟨body,written,joined⟩ := @ih '.' others last
        exact ⟨tag.spell ++ '.' :: body,by rw [spellSection,written]; rfl,.more spelled joined⟩

theorem marked_spell (fits : ∀ tag ∈ tags, tag.Bounded ∧ tag.Worded) : Marked marker tags (spellSection marker tags) := by
  by_cases none : tags = []
  · subst none
    exact .inl ⟨rfl,rfl⟩
  · exact .inr (joined_spell fits none)

end Tag

namespace Version

def Bounded (v : Version) : Prop := v.major < numberLimit ∧ v.minor < numberLimit ∧ v.patch < numberLimit ∧
  ∀ tag ∈ v.release ++ v.metadata, tag.Bounded

theorem spelled_render {v : Version} {text : List Char} (spelled : v.Spelled text) :
    v.spell = Decimal.dropZeros false text := by
  obtain ⟨major,minor,patch,release,metadata,rfl,⟨⟨some₁,all₁⟩,same₁,_⟩,⟨⟨some₂,all₂⟩,same₂,_⟩,⟨⟨some₃,all₃⟩,same₃,_⟩,
    before,behind⟩ := spelled
  have after : Stops Char.isDigit (metadata ++ []) := Tag.marked_stops behind rfl stops_nil
  have point : ∀ rest, Stops Char.isDigit ('.' :: rest) := fun _ => stops_cons.mpr rfl
  have closing : Stops Char.isDigit (release ++ (metadata ++ [])) := Tag.marked_stops before rfl after
  rw [← List.append_nil metadata,Decimal.dropZeros_run all₁ some₁ (point _),Decimal.dropZeros_other rfl,
    Decimal.dropZeros_run all₂ some₂ (point _),Decimal.dropZeros_other rfl,Decimal.dropZeros_run all₃ some₃ closing,
    Tag.marked_trimmed before rfl after,Tag.marked_trimmed behind rfl stops_nil,same₁,same₂,same₃,spell]
  simp [Decimal.dropZeros]

theorem spelled_spell_exact (v : Version) :
    v.Spelled v.spell ↔ v.Bounded ∧ ∀ tag ∈ v.release ++ v.metadata, tag.Worded := by
  constructor
  · intro found
    obtain ⟨_,_,_,_,_,_,⟨_,_,below₁⟩,⟨_,_,below₂⟩,⟨_,_,below₃⟩,before,behind⟩ := found
    have fits : ∀ tag ∈ v.release ++ v.metadata, tag.Bounded ∧ tag.Worded := by
      intro tag member
      rcases List.mem_append.mp member with early | late
      · exact Tag.marked_fits before tag early
      · exact Tag.marked_fits behind tag late
    exact ⟨⟨below₁,below₂,below₃,fun tag member => (fits tag member).1⟩,fun tag member => (fits tag member).2⟩
  · intro found
    obtain ⟨⟨below₁,below₂,below₃,bounded⟩,worded⟩ := found
    have numeral : ∀ n, n < numberLimit → Numeral n (Decimal.spell n) := fun n below =>
      ⟨⟨Decimal.spell_nonempty n,Decimal.spell_digits n⟩,Decimal.value_spell n,below⟩
    have fits : ∀ tag ∈ v.release ++ v.metadata, tag.Bounded ∧ tag.Worded :=
      fun tag member => ⟨bounded tag member,worded tag member⟩
    refine ⟨_,_,_,_,_,?_,numeral _ below₁,numeral _ below₂,numeral _ below₃,
      Tag.marked_spell fun tag member => fits tag (List.mem_append_left _ member),
      Tag.marked_spell fun tag member => fits tag (List.mem_append_right _ member)⟩
    simp [spell]

-- Parsing accepts exactly the spellings, and writing the result drops redundant leading zeros only.
theorem parse_exact (text : String) (v : Version) :
    ((parse text).result = .ok v ↔ v.Spelled text.toList) ∧
    ((parse text).result = .ok v → v.render.toList = Decimal.dropZeros false text.toList) := by
  have accepted := parse_spelled text v
  refine ⟨accepted,fun parsed => ?_⟩
  rw [render,String.toList_ofList]
  exact spelled_render (accepted.mp parsed)

-- A version with numbers below the limit is read back from its written form exactly when all its texts are words.
theorem parse_render_exact (v : Version) :
    (parse v.render).result = .ok v ↔ v.Bounded ∧ ∀ tag ∈ v.release ++ v.metadata, tag.Worded := by
  rw [parse_spelled,render,String.toList_ofList]
  exact spelled_spell_exact v

end Version

end CommittedParsing
