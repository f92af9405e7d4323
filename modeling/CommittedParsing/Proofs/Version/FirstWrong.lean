import CommittedParsing.Proofs.Parser.FirstWrong
import CommittedParsing.Proofs.Version.Fields

namespace CommittedParsing.Version

open CommittedParsing.Parser CommittedParsing.Lexeme

section Words

abbrev AtWord : FailureLanguage := fun read cause after =>
  read = [] ∧ Tells cause after ∨ Oversized numberLimit read cause after

theorem missing_word {test : Char → Bool} {read after : List Char} {cause : Cause} (missing : Missing test read cause after) :
    AtWord read cause after := by
  obtain ⟨rfl,_,tells⟩ := missing
  exact .inl ⟨rfl,tells⟩

theorem checkNumber_refuses {n : Nat} {message : String} (refused : checkNumber n = .error message) : numberLimit ≤ n := by
  unfold checkNumber at refused
  split at refused
  · cases refused
  · next above => exact Nat.le_of_not_lt above

theorem number_halts : Halts number AtWord := by
  refine halts_mono (tryMap_halts checkNumber decimal_accepts decimal_halts) ?_
  intro read cause after halted
  rcases halted with (missing | ⟨rfl,rejected,run,rest,rfl,digits,stops,large⟩) |
    ⟨rfl,_,message,run,rest,rfl,⟨digits,rfl,_,stops⟩,refused,rfl⟩
  · exact missing_word missing
  · have wider : numberLimit ≤ decimalLimit := by decide
    exact .inr ⟨rfl,rejected,run,rest,rfl,digits,stops,Nat.le_trans wider large⟩
  · exact .inr ⟨rfl,⟨message,rfl⟩,run,rest,rfl,digits,stops,checkNumber_refuses refused⟩

theorem tag_halts : Halts tag AtWord := by
  have words : Halts ((many1 letter).recognize.map Tag.text) (Missing Char.isAlpha) :=
    map_halts _ (recognize_halts run1_halts)
  refine halts_mono (orElse_halts (map_refuses _ number_refuses) (map_halts Tag.number number_halts) words) ?_
  intro read cause after halted
  rcases halted with ⟨_,atWord⟩ | ⟨_,missing⟩
  · exact atWord
  · exact missing_word missing

end Words

section Fields

variable {field other : Field} {front text read after : List Char} {cause : Cause} {marker : Char}

def Halted (read : List Char) (cause : Cause) (after : List Char) : Prop :=
  (∃ field front back, read = front ++ back ∧ Awaits Fits field front ∧ AtWord back cause after) ∨
    (∃ field, Passed Fits field read) ∧ Tells cause after

theorem awaits_halted (awaits : Awaits Fits field front) (atWord : AtWord read cause after) :
    Halted (front ++ read) cause after := .inl ⟨field,front,read,rfl,awaits,atWord⟩

theorem passed_halted (passed : Passed Fits field front) {test : Char → Bool} (missing : Missing test read cause after) :
    Halted (front ++ read) cause after := by
  obtain ⟨rfl,_,tells⟩ := missing
  rw [List.append_nil]
  exact .inr ⟨⟨field,passed⟩,tells⟩

theorem passed_next (passed : Passed Fits field text) (follows : Follows field marker other) :
    Awaits Fits other (text ++ [marker]) := by
  obtain ⟨front,word,rfl,awaits,spelled⟩ := passed
  rw [List.append_assoc]
  exact .next awaits spelled follows

abbrev Points : TextLanguage Char := fun value read _ => read = ['.'] ∧ value = '.'

abbrev TagText : TextLanguage Tag := fun tag read after => tag.Spelled read ∧ tag.EndsBefore after

theorem rounds_passed {tags : List Tag} (again : Follows field '.' field) (tagged : field.tagged = true)
    (row : Row (RoundText TagText Points) tags read after) (passed : Passed Fits field front) :
    Passed Fits field (front ++ read) := by
  induction row generalizing front with
  | nil =>
      rw [List.append_nil]
      exact passed
  | cons round _ ih =>
      obtain ⟨_,back,rfl,⟨_,rfl,_⟩,spelled,_⟩ := round
      have here : Passed Fits field (front ++ ['.'] ++ back) :=
        ⟨front ++ ['.'],back,rfl,passed_next passed again,tag_word spelled tagged⟩
      simpa using ih here

theorem joined_passed {tags : List Tag} (again : Follows field '.' field) (tagged : field.tagged = true)
    (joined : Tag.Joined tags read) (awaits : Awaits Fits field front) : Passed Fits field (front ++ read) := by
  induction joined generalizing front with
  | one spelled => exact ⟨front,_,rfl,awaits,tag_word spelled tagged⟩
  | more spelled _ ih =>
      have here : Passed Fits field _ := ⟨front,_,rfl,awaits,tag_word spelled tagged⟩
      simpa using ih (passed_next here again)

theorem tags_halts : Halts tags fun read cause after => ∀ field front, Follows field '.' field → field.tagged = true →
    Awaits Fits field front → Halted (front ++ read) cause after := by
  have points : Halts (char '.') (Missing (· == '.')) := satisfy_halts _ _
  refine halts_mono (separatedBy_halts tag_accepts (char_accepts '.') (char_nonempty '.') (satisfy_refuses _ _) tag_halts
    points) ?_
  intro read cause after halted field front again tagged awaits
  rcases halted with atWord | ⟨_,_,back,rfl,⟨first,rest,rfl,spelled,row⟩,⟨refusing,missing⟩ | ⟨_,_,_,rfl,⟨rfl,_⟩,atWord⟩⟩
  · exact awaits_halted awaits atWord
  · exact absurd (missing_declines missing) refusing
  · have passed := rounds_passed again tagged row ⟨front,first,rfl,awaits,tag_word spelled.1 tagged⟩
    simpa using awaits_halted (passed_next passed again) atWord

theorem tagSection_halts (marker : Char) : Halts (tagSection marker) fun read cause after => ∀ field other front,
    Follows field marker other → Follows other '.' other → other.tagged = true → Passed Fits field front →
    Halted (front ++ read) cause after := by
  have refuses : Refuses ((char marker).right tags) (Stops (· == marker)) :=
    right_refuses (char_accepts marker) (char_nonempty marker) (satisfy_refuses _ _)
  have marks : Halts (char marker) (Missing (· == marker)) := satisfy_halts _ _
  refine halts_mono (orElse_halts refuses (right_halts (char_accepts marker) marks tags_halts) (pure_halts [])) ?_
  intro read cause after halted field other front follows again tagged passed
  rcases halted with ⟨refusing,missing | ⟨_,_,_,rfl,⟨rfl,_⟩,broken⟩⟩ | ⟨_,impossible⟩
  · exact absurd (missing_declines missing) refusing
  · rw [← List.append_assoc]
    exact broken other _ again tagged (passed_next passed follows)
  · exact impossible.elim

theorem section_passed {tags : List Tag} (marked : Tag.Marked marker tags read) (follows : Follows field marker other)
    (again : Follows other '.' other) (tagged : other.tagged = true) (passed : Passed Fits field front) :
    Passed Fits field (front ++ read) ∨ Passed Fits other (front ++ read) := by
  rcases marked with ⟨_,rfl⟩ | ⟨body,rfl,joined⟩
  · rw [List.append_nil]
    exact .inl passed
  · rw [List.append_cons]
    exact .inr (joined_passed again tagged joined (passed_next passed follows))

end Fields

section Stages

variable {α β : Type} {parser first : Parser α} {second : Parser β} {field other : Field} {passed joint : List Char → Prop}

structure Stage (parser : Parser α) (passed : List Char → Prop) : Prop where
  reads : ∃ language : TextLanguage α, Accepts parser language ∧
    ∀ {value read after}, language value read after → passed read
  halts : Halts parser Halted

theorem stage_map (f : α → β) (stage : Stage parser passed) : Stage (parser.map f) passed where
  reads := by
    obtain ⟨language,accepts,reads⟩ := stage.reads
    refine ⟨_,map_accepts f accepts,?_⟩
    intro value read after found
    obtain ⟨inner,spelled,_⟩ := found
    exact reads spelled
  halts := map_halts f stage.halts

theorem stage_pair {language : TextLanguage β} {halting : FailureLanguage} (stage : Stage first passed)
    (accepts : Accepts second language) (halts : Halts second halting)
    (onward : ∀ {value front back after}, passed front → language value back after → joint (front ++ back))
    (stops : ∀ {front back cause after}, passed front → halting back cause after → Halted (front ++ back) cause after) :
    Stage (first.pair second) joint where
  reads := by
    obtain ⟨before,accepted,reads⟩ := stage.reads
    refine ⟨_,pair_accepts accepted accepts,?_⟩
    intro values read after found
    obtain ⟨front,back,rfl,spelled,continued⟩ := found
    exact onward (reads spelled) continued
  halts := by
    obtain ⟨before,accepted,reads⟩ := stage.reads
    refine halts_mono (pair_halts accepted stage.halts halts) ?_
    intro read cause after halted
    rcases halted with missed | ⟨value,front,back,rfl,spelled,missed⟩
    · exact missed
    · exact stops (reads spelled) missed

theorem major_stage : Stage number (Passed Fits .major) where
  reads := ⟨_,number_accepts,fun spelled => ⟨[],_,rfl,.start,numeral_word spelled.1 .major⟩⟩
  halts := halts_mono number_halts fun atWord => awaits_halted .start atWord

theorem number_stage (stage : Stage parser (Awaits Fits field)) : Stage (parser.pair number) (Passed Fits field) :=
  stage_pair stage number_accepts number_halts
    (fun awaits spelled => ⟨_,_,rfl,awaits,numeral_word spelled.1 field⟩) fun awaits atWord => awaits_halted awaits atWord

theorem point_stage (follows : Follows field '.' other) (stage : Stage parser (Passed Fits field)) :
    Stage (parser.left (char '.')) (Awaits Fits other) := by
  have point : Halts (char '.') (Missing (· == '.')) := satisfy_halts _ _
  refine stage_map _ (stage_pair stage (char_accepts '.') point ?_ fun passed missing => passed_halted passed missing)
  intro value front back after passed pointed
  obtain ⟨rfl,_⟩ := pointed
  exact passed_next passed follows

-- The release may be missing, so that the metadata come behind the patch or behind the release.
theorem release_stage (stage : Stage parser (Passed Fits .patch)) :
    Stage (parser.pair (tagSection '-')) fun read => ∃ field, Follows field '+' .metadata ∧ Passed Fits field read := by
  refine stage_pair stage (tagSection_accepts '-') (tagSection_halts '-') ?_ ?_
  · intro tags front back after passed accepted
    rcases section_passed (Tag.section_marked accepted) .release .tag rfl passed with same | onward
    · exact ⟨.patch,.build,same⟩
    · exact ⟨.release,.metadata,onward⟩
  · intro front back cause after passed broken
    exact broken .patch .release front .release .tag rfl passed

theorem metadata_halts (stage : Stage parser fun read => ∃ field, Follows field '+' .metadata ∧ Passed Fits field read) :
    Halts (parser.pair (tagSection '+')) Halted := by
  obtain ⟨_,accepts,reads⟩ := stage.reads
  refine halts_mono (pair_halts accepts stage.halts (tagSection_halts '+')) ?_
  intro read cause after halted
  rcases halted with missed | ⟨_,front,_,rfl,spelled,broken⟩
  · exact missed
  · obtain ⟨field,follows,passed⟩ := reads spelled
    exact broken field .metadata front follows .label rfl passed

theorem grammar_halts : Halts grammar Halted := by
  have patch := number_stage (point_stage .patch (number_stage (point_stage .minor major_stage)))
  exact map_halts assemble (metadata_halts (release_stage patch))

end Stages

section Composed

variable {allowed : Allowance} (checked : allowed.check = true)

include checked

theorem number_composed : Composed allowed number := .tryMap _ checked (.tryMap _ checked (.many1 (.satisfy _ _)))

theorem tag_composed : Composed allowed tag :=
  .orElse (.map _ (number_composed checked)) (.map _ (.recognize (.many1 (.satisfy _ _))))

theorem tagSection_composed (marker : Char) : Composed allowed (tagSection marker) :=
  .orElse (composed_right (.satisfy _ _) (.separatedBy (tag_composed checked) (.satisfy _ _))) (.pure [])

theorem grammar_composed : Composed allowed grammar := by
  have number := number_composed checked
  have point : Composed allowed (char '.') := .satisfy _ _
  have numbers := Composed.pair (composed_left (.pair (composed_left number point) number) point) number
  exact .map _ (.pair (.pair numbers (tagSection_composed checked '-')) (tagSection_composed checked '+'))

end Composed

section Results

variable {front rest read after : List Char} {cause : Cause}

theorem spelled_extendable (begun : ∃ more, ∃ v : Version, v.Spelled (front ++ more)) : Extendable grammar front := by
  obtain ⟨more,v,spelled⟩ := begun
  refine ⟨more,v,(parse_spelled _ v).mpr ?_⟩
  rw [String.toList_ofList]
  exact spelled

theorem awaits_exact : (∃ field, Awaits Fits field front) ↔
    Extendable grammar front ∧ ∀ c, front.getLast? = some c → c.isAlphanum = false := by
  constructor
  · intro found
    obtain ⟨field,awaits⟩ := found
    exact ⟨spelled_extendable (awaits_spelled awaits),fun c last => awaits_last awaits last⟩
  · intro found
    obtain ⟨⟨more,v,parsed⟩,marked⟩ := found
    have spelled := (parse_spelled _ v).mp parsed
    rw [String.toList_ofList] at spelled
    exact ends_awaits .start (spelled_ends spelled) rfl marked

theorem parse_halted {text : String} {failed : Failure} (ran : (parse text).result = .error failed) :
    ∃ front rest, text.toList = front ++ rest ∧ failed.position = Text.byteLength front ∧ Extendable grammar front ∧
      ((∃ field, Awaits Fits field front) ∧ Oversized numberLimit [] failed.fault.cause rest ∨
        Tells failed.fault.cause rest) := by
  obtain ⟨front,rest,whole,placed,halted⟩ := parseComplete_halts grammar_accepts grammar_halts ran
  refine ⟨front,rest,whole,placed,?_⟩
  rcases halted with (⟨field,front,_,rfl,awaits,⟨rfl,tells⟩ | ⟨rfl,large⟩⟩ | ⟨⟨field,passed⟩,tells⟩) | ⟨⟨v,taken⟩,tells⟩
  · rw [List.append_nil]
    exact ⟨spelled_extendable (awaits_spelled awaits),.inr tells⟩
  · rw [List.append_nil]
    exact ⟨spelled_extendable (awaits_spelled awaits),.inl ⟨⟨field,awaits⟩,rfl,large⟩⟩
  · exact ⟨spelled_extendable (passed_spelled passed),.inr tells⟩
  · refine ⟨spelled_extendable ⟨[],v,?_⟩,.inr tells⟩
    rw [List.append_nil]
    exact grammar_spelling taken

-- A failed parse has rejected the first number that is too large, behind a text with which a version begins, or it has
-- found an unexpected character, the end of the text or something left over, at the first wrong character.
theorem parse_misspelled (text : String) (failed : Failure) (ran : (parse text).result = .error failed) :
    ((∃ message, failed.fault.cause = .rejected message) ∧ ∃ front, failed.position = Text.byteLength front ∧
      Overflows text.toList front ∧ (∀ other, Overflows text.toList other → front.length ≤ other.length) ∧
      Extendable grammar front) ∨
    ((∃ expected found, failed.fault.cause = .unexpected expected found) ∨
      (∃ expected, failed.fault.cause = .endOfInput expected) ∨ ∃ found, failed.fault.cause = .trailing found) ∧
      AtFirstWrong grammar text failed := by
  obtain ⟨front,rest,whole,placed,extendable,⟨⟨field,awaits⟩,_,rejected,run,back,rfl,digits,stops,large⟩ | tells⟩ :=
    parse_halted ran
  · have overflows : Overflows text.toList front := ⟨field,run,back,whole,awaits_any awaits,digits,stops,large⟩
    exact .inl ⟨rejected,front,placed,overflows,fun _ => awaits_first awaits whole,extendable⟩
  · have composed : Composed ⟨false,false,false,true⟩ grammar := grammar_composed rfl
    exact .inr ⟨tells_kind tells,first_wrong ⟨rfl,rfl,rfl⟩ composed ran whole placed tells extendable⟩

theorem large_minor_misspelled :
    (∃ failed front, (parse "1.18446744073709551616.99999999999999999999").result = .error failed ∧ failed.position = 2 ∧
      failed.position = Text.byteLength front ∧ Overflows "1.18446744073709551616.99999999999999999999".toList front ∧
      Extendable grammar front) ∧
    ∃ failed, (parse "1.0.0-a1").result = .error failed ∧ failed.position = 7 ∧ AtFirstWrong grammar "1.0.0-a1" failed := by
  have large : (parse "1.18446744073709551616.99999999999999999999").result =
      .error ⟨⟨.rejected "version number too large: 18446744073709551616",
        ⟨"1.18446744073709551616.99999999999999999999",2⟩⟩,true⟩ :=
    parseComplete_error.mpr (by decide +kernel)
  have mixed : (parse "1.0.0-a1").result = .error ⟨⟨.trailing '1',⟨"1.0.0-a1",7⟩⟩,true⟩ :=
    parseComplete_error.mpr (by decide +kernel)
  constructor
  · rcases parse_misspelled _ _ large with ⟨_,front,placed,overflows,_,extendable⟩ | ⟨kind,_⟩
    · exact ⟨_,front,large,rfl,placed,overflows,extendable⟩
    · rcases kind with ⟨_,_,other⟩ | ⟨_,other⟩ | ⟨_,other⟩ <;> cases other
  · rcases parse_misspelled _ _ mixed with ⟨⟨_,other⟩,_⟩ | ⟨_,first⟩
    · cases other
    · exact ⟨_,mixed,rfl,first⟩

end Results

end CommittedParsing.Version
