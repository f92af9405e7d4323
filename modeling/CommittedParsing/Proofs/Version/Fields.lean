import CommittedParsing.Proofs.Version.Spelling

namespace CommittedParsing.Version

open CommittedParsing.Parser

inductive Field where
  | major
  | minor
  | patch
  | release
  | metadata

namespace Field

def tagged : Field → Bool
  | release | metadata => true
  | major | minor | patch => false

def closes : Field → Bool
  | patch | release | metadata => true
  | major | minor => false

end Field

-- The mark behind a word of one field, and the field of the next word.
inductive Follows : Field → Char → Field → Prop where
  | minor : Follows .major '.' .minor
  | patch : Follows .minor '.' .patch
  | release : Follows .patch '-' .release
  | build : Follows .patch '+' .metadata
  | tag : Follows .release '.' .release
  | metadata : Follows .release '+' .metadata
  | label : Follows .metadata '.' .metadata

def Word (allowed : Nat → Prop) (field : Field) (word : List Char) : Prop :=
  Run Char.isDigit word ∧ allowed (Decimal.value word) ∨ field.tagged = true ∧ Run Char.isAlpha word

inductive Awaits (allowed : Nat → Prop) : Field → List Char → Prop where
  | start : Awaits allowed .major []
  | next {field other : Field} {front word : List Char} {mark : Char} : Awaits allowed field front →
      Word allowed field word → Follows field mark other → Awaits allowed other (front ++ (word ++ [mark]))

def Passed (allowed : Nat → Prop) (field : Field) (text : List Char) : Prop :=
  ∃ front word, text = front ++ word ∧ Awaits allowed field front ∧ Word allowed field word

abbrev Fits : Nat → Prop := fun n => n < numberLimit

abbrev Any : Nat → Prop := fun _ => True

inductive Ends : Field → List Char → Prop where
  | last {field : Field} {word : List Char} : Word Fits field word → field.closes = true → Ends field word
  | next {field other : Field} {word rest : List Char} {mark : Char} : Word Fits field word →
      Follows field mark other → Ends other rest → Ends field (word ++ mark :: rest)

def Continues (field : Field) (tail : List Char) : Prop := tail = [] ∧ field.closes = true ∨
  ∃ mark other rest, tail = mark :: rest ∧ Follows field mark other ∧ Ends other rest

-- The text is split before a run of digits in the place of a word, which is as long as it gets and too large.
def Overflows (text front : List Char) : Prop := ∃ field run rest, text = front ++ (run ++ rest) ∧ Awaits Any field front ∧
  Run Char.isDigit run ∧ Stops Char.isDigit rest ∧ numberLimit ≤ Decimal.value run

section Spellings

variable {field other : Field} {word front rest text : List Char} {mark : Char}

theorem word_numeral (spelled : Word Fits field word) (plain : field.tagged = false) : Numeral (Decimal.value word) word := by
  rcases spelled with ⟨run,below⟩ | ⟨tagged,_⟩
  · exact ⟨run,rfl,below⟩
  · exact absurd (plain.symm.trans tagged) (by decide)

theorem word_tag (spelled : Word Fits field word) : ∃ tag : Tag, tag.Spelled word := by
  rcases spelled with ⟨run,below⟩ | ⟨_,run⟩
  · exact ⟨.number (Decimal.value word),run,rfl,below⟩
  · exact ⟨.text (String.ofList word),String.toList_ofList.symm,run⟩

theorem metadata_joined (ends : Ends .metadata text) : ∃ tags, Tag.Joined tags text := by
  generalize same : Field.metadata = field at ends
  induction ends with
  | last spelled _ =>
      obtain ⟨tag,spelled⟩ := word_tag spelled
      exact ⟨[tag],.one spelled⟩
  | next spelled follows _ ih =>
      cases same
      cases follows
      obtain ⟨tag,spelled⟩ := word_tag spelled
      obtain ⟨tags,joined⟩ := ih rfl
      exact ⟨tag :: tags,.more spelled joined⟩

theorem release_joined (ends : Ends .release text) : ∃ front back tags others, text = front ++ back ∧
    Tag.Joined tags front ∧ Tag.Marked '+' others back := by
  generalize same : Field.release = field at ends
  induction ends with
  | @last _ word spelled _ =>
      obtain ⟨tag,spelled⟩ := word_tag spelled
      exact ⟨word,[],[tag],[],(List.append_nil _).symm,.one spelled,.inl ⟨rfl,rfl⟩⟩
  | @next _ _ word rest _ spelled follows ends ih =>
      cases same
      obtain ⟨tag,spelled⟩ := word_tag spelled
      cases follows with
      | tag =>
          obtain ⟨front,back,tags,others,rfl,joined,marked⟩ := ih rfl
          exact ⟨word ++ '.' :: front,back,tag :: tags,others,by simp,.more spelled joined,marked⟩
      | metadata =>
          obtain ⟨others,joined⟩ := metadata_joined ends
          exact ⟨word,'+' :: rest,[tag],others,rfl,.one spelled,.inr ⟨rest,rfl,joined⟩⟩

theorem patch_marked (ends : Ends .patch text) : ∃ patch release metadata n tags others,
    text = patch ++ (release ++ metadata) ∧ Numeral n patch ∧ Tag.Marked '-' tags release ∧ Tag.Marked '+' others metadata := by
  cases ends with
  | last spelled _ =>
      exact ⟨text,[],[],_,[],[],by simp,word_numeral spelled rfl,.inl ⟨rfl,rfl⟩,.inl ⟨rfl,rfl⟩⟩
  | @next _ _ word rest _ spelled follows ends =>
      have number := word_numeral spelled rfl
      cases follows with
      | release =>
          obtain ⟨front,back,tags,others,rfl,joined,marked⟩ := release_joined ends
          exact ⟨word,'-' :: front,back,_,tags,others,rfl,number,.inr ⟨front,rfl,joined⟩,marked⟩
      | build =>
          obtain ⟨others,joined⟩ := metadata_joined ends
          exact ⟨word,[],'+' :: rest,_,[],others,rfl,number,.inl ⟨rfl,rfl⟩,.inr ⟨rest,rfl,joined⟩⟩

theorem ends_spelled (ends : Ends .major text) : ∃ v : Version, v.Spelled text := by
  cases ends with
  | last _ closing => cases closing
  | next major follows ends =>
      cases follows
      cases ends with
      | last _ closing => cases closing
      | next minor follows ends =>
          cases follows
          obtain ⟨patch,release,metadata,n,tags,others,rfl,number,before,behind⟩ := patch_marked ends
          exact ⟨⟨_,_,n,tags,others⟩,_,_,patch,release,metadata,rfl,word_numeral major rfl,word_numeral minor rfl,
            number,before,behind⟩

theorem awaits_ends (awaits : Awaits Fits field front) (ends : Ends field rest) : Ends .major (front ++ rest) := by
  induction awaits generalizing rest with
  | start => exact ends
  | next _ spelled follows ih =>
      have whole := ih (.next spelled follows ends)
      simpa using whole

theorem zero_word (field : Field) : Word Fits field ['0'] := .inl (by decide)

theorem word_finished (spelled : Word Fits field word) : ∃ more, Ends field (word ++ more) := by
  cases field with
  | major => exact ⟨_,.next spelled .minor (.next (zero_word _) .patch (.last (zero_word _) rfl))⟩
  | minor => exact ⟨_,.next spelled .patch (.last (zero_word _) rfl)⟩
  | patch => exact ⟨[],(List.append_nil word).symm ▸ .last spelled rfl⟩
  | release => exact ⟨[],(List.append_nil word).symm ▸ .last spelled rfl⟩
  | metadata => exact ⟨[],(List.append_nil word).symm ▸ .last spelled rfl⟩

theorem passed_spelled (passed : Passed Fits field text) : ∃ more, ∃ v : Version, v.Spelled (text ++ more) := by
  obtain ⟨front,word,rfl,awaits,spelled⟩ := passed
  obtain ⟨more,ends⟩ := word_finished spelled
  refine ⟨more,?_⟩
  rw [List.append_assoc]
  exact ends_spelled (awaits_ends awaits ends)

theorem awaits_spelled (awaits : Awaits Fits field front) : ∃ more, ∃ v : Version, v.Spelled (front ++ more) := by
  obtain ⟨more,v,spelled⟩ := passed_spelled ⟨front,['0'],rfl,awaits,zero_word field⟩
  rw [List.append_assoc] at spelled
  exact ⟨_,v,spelled⟩

theorem tag_word {tag : Tag} (spelled : tag.Spelled text) (tagged : field.tagged = true) : Word Fits field text := by
  cases tag with
  | number n =>
      obtain ⟨run,same,below⟩ := spelled
      exact .inl ⟨run,same ▸ below⟩
  | text word => exact .inr ⟨tagged,spelled.2⟩

theorem numeral_word {n : Nat} (numeral : Numeral n text) (field : Field) : Word Fits field text := by
  obtain ⟨run,same,below⟩ := numeral
  exact .inl ⟨run,same ▸ below⟩

theorem word_continues (spelled : Word Fits field word) (continues : Continues field rest) : Ends field (word ++ rest) := by
  rcases continues with ⟨rfl,closing⟩ | ⟨mark,other,rest,rfl,follows,ends⟩
  · rw [List.append_nil]
    exact .last spelled closing
  · exact .next spelled follows ends

theorem joined_ends {tags : List Tag} (again : Follows field '.' field) (tagged : field.tagged = true)
    (joined : Tag.Joined tags text) (continues : Continues field rest) : Ends field (text ++ rest) := by
  induction joined with
  | one spelled => exact word_continues (tag_word spelled tagged) continues
  | more spelled _ ih =>
      rw [List.append_assoc]
      exact .next (tag_word spelled tagged) again ih

theorem metadata_continues {tags : List Tag} (marked : Tag.Marked '+' tags text) (closing : field.closes = true)
    (follows : Follows field '+' .metadata) : Continues field text := by
  rcases marked with ⟨_,rfl⟩ | ⟨body,rfl,joined⟩
  · exact .inl ⟨rfl,closing⟩
  · have ends : Ends .metadata (body ++ []) := joined_ends .label rfl joined (.inl ⟨rfl,rfl⟩)
    rw [List.append_nil] at ends
    exact .inr ⟨'+',.metadata,body,rfl,follows,ends⟩

theorem spelled_ends {v : Version} (spelled : v.Spelled text) : Ends .major text := by
  obtain ⟨major,minor,patch,release,metadata,rfl,first,second,third,before,behind⟩ := spelled
  have tail : Continues .patch (release ++ metadata) := by
    rcases before with ⟨_,rfl⟩ | ⟨body,rfl,joined⟩
    · exact metadata_continues behind rfl .build
    · have ends := joined_ends .tag rfl joined (metadata_continues behind rfl .metadata)
      exact .inr ⟨'-',.release,_,rfl,.release,ends⟩
  exact .next (numeral_word first .major) .minor (.next (numeral_word second .minor) .patch
    (word_continues (numeral_word third .patch) tail))

end Spellings

section Places

variable {allowed : Nat → Prop} {field other : Field} {front word text : List Char} {mark c : Char}

theorem awaits_any (awaits : Awaits allowed field front) : Awaits Any field front := by
  induction awaits with
  | start => exact .start
  | next _ spelled follows ih =>
      rcases spelled with ⟨run,_⟩ | letters
      · exact .next ih (.inl ⟨run,trivial⟩) follows
      · exact .next ih (.inr letters) follows

theorem follows_mark (follows : Follows field mark other) : mark.isAlphanum = false := by
  cases follows <;> rfl

theorem word_characters (spelled : Word allowed field word) : ∀ c ∈ word, c.isAlphanum = true := by
  intro c member
  unfold Char.isAlphanum
  rcases spelled with ⟨run,_⟩ | ⟨_,run⟩
  · rw [run.2 c member,Bool.or_true]
  · rw [run.2 c member,Bool.true_or]

theorem awaits_last (awaits : Awaits allowed field front) (last : front.getLast? = some c) : c.isAlphanum = false := by
  cases awaits with
  | start => cases last
  | next _ _ follows =>
      rw [← List.append_assoc,List.getLast?_concat] at last
      cases last
      exact follows_mark follows

theorem word_front {back : List Char} (spelled : Word allowed field (front ++ back))
    (marked : ∀ c, front.getLast? = some c → c.isAlphanum = false) : front = [] := by
  rcases List.eq_nil_or_concat front with empty | ⟨init,c,rfl⟩
  · exact empty
  · have outside := marked c (by simp)
    rw [word_characters spelled c (by simp)] at outside
    cases outside

-- In a text that ends a version, a word is expected behind each front that is empty or ends with a mark.
theorem ends_awaits {rest back : List Char} (awaits : Awaits Fits field front) (ends : Ends field rest)
    (split : rest = word ++ back) (marked : ∀ c, word.getLast? = some c → c.isAlphanum = false) :
    ∃ other, Awaits Fits other (front ++ word) := by
  induction ends generalizing front word with
  | last spelled _ =>
      subst split
      obtain rfl := word_front spelled marked
      rw [List.append_nil]
      exact ⟨_,awaits⟩
  | @next field other first rest mark spelled follows _ ih =>
      -- The front ends within this word, or behind its mark, from where the induction goes on.
      rcases List.append_eq_append_iff.mp split with ⟨more,rfl,cut⟩ | ⟨more,rfl,cut⟩
      · cases more with
        | nil =>
            rw [List.append_nil] at marked ⊢
            rw [← List.append_nil first] at spelled
            obtain rfl := word_front spelled marked
            rw [List.append_nil]
            exact ⟨_,awaits⟩
        | cons c later =>
            obtain ⟨rfl,rfl⟩ := List.cons.inj cut
            have whole : front ++ (first ++ mark :: later) = front ++ (first ++ [mark]) ++ later := by simp
            rw [whole]
            refine ih (.next awaits spelled follows) rfl ?_
            intro c last
            refine marked c ?_
            rw [List.getLast?_append,List.getLast?_cons,last]
            rfl
      · obtain rfl := word_front spelled marked
        rw [List.append_nil]
        exact ⟨_,awaits⟩

theorem word_fits {run rest back : List Char} (spelled : Word Fits field word) (follows : Follows field mark other)
    (whole : run ++ back = word ++ mark :: rest) (digits : Run Char.isDigit run) (stops : Stops Char.isDigit back) :
    Decimal.value run < numberLimit := by
  rcases spelled with ⟨number,below⟩ | ⟨_,letters⟩
  · have ended : Stops Char.isDigit (mark :: rest) := by
      have other := follows_mark follows
      unfold Char.isAlphanum at other
      exact stops_cons.mpr (Bool.or_eq_false_iff.mp other).2
    have same : run = word := by
      calc run = (run ++ back).takeWhile Char.isDigit := (run_takeWhile digits.2 stops).symm
        _ = (word ++ mark :: rest).takeWhile Char.isDigit := by rw [whole]
        _ = word := run_takeWhile number.2 ended
    rw [same]
    exact below
  · obtain ⟨c,more,rfl⟩ := List.exists_cons_of_ne_nil digits.1
    obtain ⟨d,others,rfl⟩ := List.exists_cons_of_ne_nil letters.1
    obtain ⟨rfl,_⟩ := List.cons.inj whole
    have digit := digits.2 c (by simp)
    rw [alpha_not_digit (letters.2 c (by simp))] at digit
    cases digit

-- Where a text has been read with numbers that fit, no number that is too large can have been passed.
theorem awaits_first {before rest : List Char} (awaits : Awaits Fits field front) (whole : text = front ++ rest)
    (overflows : Overflows text before) : front.length ≤ before.length := by
  induction awaits generalizing rest with
  | start => exact Nat.zero_le _
  | @next field other front word mark _ spelled follows ih =>
      have early : text = front ++ (word ++ mark :: rest) := by simpa using whole
      have reached := ih early
      obtain ⟨place,run,back,cut,awaited,digits,stops,large⟩ := overflows
      refine Nat.le_of_not_lt fun shorter => ?_
      obtain ⟨extra,rfl⟩ : front <+: before :=
        List.prefix_of_prefix_length_le ⟨_,early.symm⟩ ⟨_,cut.symm⟩ reached
      have same : extra ++ (run ++ back) = word ++ mark :: rest := by
        rw [early,List.append_assoc] at cut
        exact (List.append_cancel_left cut).symm
      obtain ⟨piece,rfl⟩ : extra <+: word := by
        refine List.prefix_of_prefix_length_le ⟨_,same⟩ ⟨_,rfl⟩ ?_
        simp only [List.length_append,List.length_singleton] at shorter
        omega
      -- The other place is at the start of this word, or inside it, where no word is expected.
      rcases List.eq_nil_or_concat extra with rfl | ⟨init,c,rfl⟩
      · rw [List.nil_append] at same
        exact absurd (word_fits spelled follows same digits stops) (Nat.not_lt_of_le large)
      · rw [List.concat_eq_append] at awaited spelled
        have last : (front ++ (init ++ [c])).getLast? = some c := by simp
        have inside := word_characters spelled c (by simp)
        rw [awaits_last awaited last] at inside
        cases inside

end Places

end CommittedParsing.Version
