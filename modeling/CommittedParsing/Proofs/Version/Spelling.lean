import CommittedParsing.Proofs.Lexeme
import CommittedParsing.Proofs.Text.Decimal
import CommittedParsing.Version.Grammar

namespace CommittedParsing

open CommittedParsing.Parser CommittedParsing.Lexeme

def Version.Numeral (n : Nat) (read : List Char) : Prop :=
  Run Char.isDigit read ∧ Decimal.value read = n ∧ n < Version.numberLimit

namespace Tag

def Spelled : Tag → List Char → Prop
  | .number n,read => Version.Numeral n read
  | .text word,read => read = word.toList ∧ Run Char.isAlpha read

inductive Joined : List Tag → List Char → Prop where
  | one {tag : Tag} {read : List Char} : tag.Spelled read → Joined [tag] read
  | more {tag : Tag} {tags : List Tag} {read rest : List Char} : tag.Spelled read → Joined tags rest →
      Joined (tag :: tags) (read ++ '.' :: rest)

-- Nothing for no tags, else the marker and the joined tags.
def Marked (marker : Char) (tags : List Tag) (read : List Char) : Prop :=
  tags = [] ∧ read = [] ∨ ∃ body, read = marker :: body ∧ Joined tags body

-- The text after does not go on with the same kind of character.
def EndsBefore : Tag → List Char → Prop
  | .number _,after => Stops Char.isDigit after
  | .text _,after => Stops Char.isAlpha after

def isTagChar (c : Char) : Bool := c.isDigit || c.isAlpha || c == '.'

end Tag

namespace Version

def Spelled (v : Version) (text : List Char) : Prop :=
  ∃ major minor patch release metadata,
    text = major ++ '.' :: (minor ++ '.' :: (patch ++ (release ++ metadata))) ∧
    Numeral v.major major ∧ Numeral v.minor minor ∧ Numeral v.patch patch ∧
    Tag.Marked '-' v.release release ∧ Tag.Marked '+' v.metadata metadata

theorem checkNumber_exact (given n : Nat) : checkNumber given = .ok n ↔ given = n ∧ n < numberLimit := by
  unfold checkNumber
  split
  · next below =>
    simp only [Except.ok.injEq]
    exact ⟨fun same => ⟨same,same ▸ below⟩,And.left⟩
  · next above =>
    simp only [reduceCtorEq,false_iff,not_and]
    exact fun same below => above (same ▸ below)

theorem number_accepts : Accepts number fun n read after => Numeral n read ∧ Stops Char.isDigit after := by
  refine accepts_congr (tryMap_accepts checkNumber decimal_accepts) fun n read after => ?_
  constructor
  · intro accepted
    obtain ⟨_,⟨run,same,_,stops⟩,checked⟩ := accepted
    obtain ⟨rfl,below⟩ := (checkNumber_exact _ _).mp checked
    exact ⟨⟨run,same,below⟩,stops⟩
  · intro spelled
    obtain ⟨⟨run,same,below⟩,stops⟩ := spelled
    have fits : n < decimalLimit := Nat.lt_of_lt_of_le below (by decide)
    exact ⟨n,⟨run,same,fits,stops⟩,(checkNumber_exact _ _).mpr ⟨rfl,below⟩⟩

theorem number_refuses : Refuses number (Stops Char.isDigit) :=
  tryMap_refuses _ decimal_accepts decimal_nonempty decimal_refuses

theorem alpha_not_digit {c : Char} (letter : c.isAlpha = true) : c.isDigit = false := by
  unfold Char.isAlpha Char.isUpper Char.isLower at letter
  unfold Char.isDigit
  simp only [Bool.or_eq_true,Bool.and_eq_true,decide_eq_true_eq,Bool.and_eq_false_iff,decide_eq_false_iff_not,
    ge_iff_le,UInt32.le_iff_toNat_le] at letter ⊢
  change (65 ≤ c.val.toNat ∧ c.val.toNat ≤ 90) ∨ (97 ≤ c.val.toNat ∧ c.val.toNat ≤ 122) at letter
  change ¬ 48 ≤ c.val.toNat ∨ ¬ c.val.toNat ≤ 57
  omega

theorem tag_accepts : Accepts tag fun t read after => t.Spelled read ∧ t.EndsBefore after := by
  have words : Accepts ((many1 letter).recognize.map Tag.text) _ := map_accepts Tag.text word_accepts
  refine accepts_congr (orElse_accepts (map_accepts Tag.number number_accepts) (map_refuses _ number_refuses) words)
    fun t read after => ?_
  constructor
  · intro accepted
    rcases accepted with ⟨n,⟨numeral,stops⟩,rfl⟩ | ⟨_,word,⟨same,run,stops⟩,rfl⟩
    · exact ⟨numeral,stops⟩
    · exact ⟨⟨same,run⟩,stops⟩
  · intro spelled
    obtain ⟨spelled,ends⟩ := spelled
    cases t with
    | number n => exact .inl ⟨n,⟨spelled,ends⟩,rfl⟩
    | text word =>
        obtain ⟨same,run⟩ := spelled
        refine .inr ⟨(stops_append_nonempty run.1).mpr ?_,word,⟨same,run,ends⟩,rfl⟩
        intro c first
        exact alpha_not_digit (run.2 c (List.mem_of_mem_head? first))

end Version

namespace Tag

variable {tag : Tag} {tags : List Tag} {read after : List Char}

theorem endsBefore_tagChar (stops : Stops isTagChar after) : tag.EndsBefore after := by
  cases tag with
  | number n => exact stops_mono (fun c digit => by simp [isTagChar,digit]) stops
  | text word => exact stops_mono (fun c letter => by simp [isTagChar,letter]) stops

theorem endsBefore_point : tag.EndsBefore ('.' :: after) := by
  cases tag with
  | number n => exact stops_cons.mpr rfl
  | text word => exact stops_cons.mpr rfl

def listLanguage : TextLanguage (List Tag) := Separated (fun tag read after => tag.Spelled read ∧ tag.EndsBefore after)
  (fun value read _ => read = ['.'] ∧ value = '.') (Stops (· == '.'))

def sectionLanguage (marker : Char) : TextLanguage (List Tag) := fun tags read after =>
  (∃ body, read = marker :: body ∧ listLanguage tags body after) ∨ Stops (· == marker) after ∧ read = [] ∧ tags = []

theorem joined_list (joined : Joined tags read) (stops : Stops isTagChar after) : listLanguage tags read after := by
  induction joined with
  | one spelled =>
      exact .one ⟨spelled,endsBefore_tagChar stops⟩ (stops_mono (fun c point => by simp [isTagChar,point]) stops)
  | more spelled _ ih =>
      have point : ['.'] = ['.'] ∧ '.' = '.' := ⟨rfl,rfl⟩
      exact .more ⟨spelled,endsBefore_point⟩ point ih

theorem list_joined (list : listLanguage tags read after) : Joined tags read := by
  induction list with
  | one spelled _ => exact .one spelled.1
  | more spelled marked _ ih =>
      obtain ⟨rfl,_⟩ := marked
      exact .more spelled.1 ih

theorem marked_section {marker : Char} (marked : Marked marker tags read) (stops : Stops isTagChar after)
    (other : Stops (· == marker) after) : sectionLanguage marker tags read after := by
  rcases marked with ⟨rfl,rfl⟩ | ⟨body,rfl,joined⟩
  · exact .inr ⟨other,rfl,rfl⟩
  · exact .inl ⟨body,rfl,joined_list joined stops⟩

theorem section_marked {marker : Char} (accepted : sectionLanguage marker tags read after) : Marked marker tags read := by
  rcases accepted with ⟨body,rfl,list⟩ | ⟨_,rfl,rfl⟩
  · exact .inr ⟨body,rfl,list_joined list⟩
  · exact .inl ⟨rfl,rfl⟩

theorem marked_stops {marker : Char} {test : Char → Bool} (marked : Marked marker tags read) (other : test marker = false)
    (stops : Stops test after) : Stops test (read ++ after) := by
  rcases marked with ⟨rfl,rfl⟩ | ⟨body,rfl,_⟩
  · exact stops
  · exact stops_cons.mpr other

end Tag

namespace Version

theorem tags_accepts : Accepts tags Tag.listLanguage :=
  separatedBy_accepts tag_accepts (char_accepts '.') (char_nonempty '.') (satisfy_refuses _ _)

theorem tagSection_accepts (marker : Char) : Accepts (tagSection marker) (Tag.sectionLanguage marker) := by
  have marks := right_accepts (char_accepts marker) tags_accepts
  have refuses : Refuses ((char marker).right tags) (Stops (· == marker)) :=
    right_refuses (char_accepts marker) (char_nonempty marker) (satisfy_refuses _ _)
  refine accepts_congr (orElse_accepts marks refuses (pure_accepts [])) fun tags read after => ?_
  constructor
  · intro accepted
    rcases accepted with ⟨_,body,rfl,⟨_,rfl,_⟩,list⟩ | ⟨stops,rfl,rfl⟩
    · exact .inl ⟨body,rfl,list⟩
    · exact .inr ⟨stops,rfl,rfl⟩
  · intro spelled
    rcases spelled with ⟨body,rfl,list⟩ | ⟨stops,rfl,rfl⟩
    · exact .inl ⟨[marker],body,rfl,⟨marker,rfl,rfl⟩,list⟩
    · exact .inr ⟨stops,rfl,rfl⟩

def grammarLanguage : TextLanguage Version := fun v read after => ∃ major minor patch release metadata,
  read = major ++ '.' :: (minor ++ '.' :: (patch ++ (release ++ metadata))) ∧
  Numeral v.major major ∧ Numeral v.minor minor ∧
  (Numeral v.patch patch ∧ Stops Char.isDigit (release ++ (metadata ++ after))) ∧
  Tag.sectionLanguage '-' v.release release (metadata ++ after) ∧ Tag.sectionLanguage '+' v.metadata metadata after

theorem grammar_accepts : Accepts grammar grammarLanguage := by
  have point := char_accepts '.'
  have first := left_accepts number_accepts point
  have second := left_accepts (pair_accepts first number_accepts) point
  have third := pair_accepts second number_accepts
  have whole := pair_accepts (pair_accepts third (tagSection_accepts '-')) (tagSection_accepts '+')
  refine accepts_congr (map_accepts assemble whole) fun v read after => ?_
  constructor
  · intro accepted
    obtain ⟨⟨⟨⟨⟨major,minor⟩,patch⟩,release⟩,metadata⟩,⟨_,fifth,rfl,⟨_,fourth,rfl,⟨_,third,rfl,
      ⟨_,_,rfl,⟨_,second,rfl,⟨first,_,rfl,⟨one,_⟩,_,rfl,_⟩,two,_⟩,_,rfl,_⟩,three,stops⟩,before⟩,behind⟩,rfl⟩ := accepted
    refine ⟨first,second,third,fourth,fifth,by simp,one,two,⟨three,?_⟩,before,behind⟩
    simpa using stops
  · intro spelled
    obtain ⟨first,second,third,fourth,fifth,rfl,one,two,⟨three,stops⟩,before,behind⟩ := spelled
    obtain ⟨major,minor,patch,release,metadata⟩ := v
    refine ⟨((((major,minor),patch),release),metadata),⟨_,fifth,?_,⟨_,fourth,rfl,⟨_,third,rfl,
      ⟨_,['.'],rfl,⟨_,second,rfl,⟨first,['.'],rfl,⟨one,?_⟩,_,rfl,rfl⟩,two,?_⟩,_,rfl,rfl⟩,three,?_⟩,before⟩,behind⟩,rfl⟩
    · simp
    · exact stops_cons.mpr rfl
    · exact stops_cons.mpr rfl
    · simpa using stops

theorem grammar_spelling {v : Version} {text after : List Char} (found : grammarLanguage v text after) : v.Spelled text := by
  obtain ⟨major,minor,patch,release,metadata,whole,one,two,⟨three,_⟩,before,behind⟩ := found
  exact ⟨major,minor,patch,release,metadata,whole,one,two,three,Tag.section_marked before,Tag.section_marked behind⟩

def isVersionChar (c : Char) : Bool := Tag.isTagChar c || c == '-' || c == '+'

-- Where no character of versions follows, the greedy reader reads exactly the spellings.
theorem grammar_spelled {after : List Char} (ends : Stops isVersionChar after) (v : Version) (text : List Char) :
    grammarLanguage v text after ↔ v.Spelled text := by
  constructor
  · exact grammar_spelling
  · intro found
    obtain ⟨inner,unplussed⟩ := stops_or.mp ends
    obtain ⟨untagged,unmarked⟩ := stops_or.mp inner
    obtain ⟨major,minor,patch,release,metadata,whole,one,two,three,before,behind⟩ := found
    have plus : ∀ test : Char → Bool, test '+' = false → Stops test after → Stops test (metadata ++ after) :=
      fun test other stops => Tag.marked_stops behind other stops
    have undigited : Stops Char.isDigit after := stops_mono (fun c digit => by simp [Tag.isTagChar,digit]) untagged
    refine ⟨major,minor,patch,release,metadata,whole,one,two,⟨three,?_⟩,?_,?_⟩
    · exact Tag.marked_stops before rfl (plus _ rfl undigited)
    · exact Tag.marked_section before (plus _ rfl untagged) (plus _ rfl unmarked)
    · exact Tag.marked_section behind untagged unplussed

theorem parse_spelled (text : String) (v : Version) : (parse text).result = .ok v ↔ v.Spelled text.toList :=
  (parseComplete_exact grammar_accepts text v).trans (grammar_spelled stops_nil v text.toList)

end Version

end CommittedParsing
