import CommittedParsing.Proofs.Failure.Message
import CommittedParsing.Proofs.Ini.Document
import CommittedParsing.Proofs.Number.Fraction
import CommittedParsing.Proofs.Parser.Confined
import CommittedParsing.Proofs.Version.Spelling

namespace CommittedParsing

open Cursor CommittedParsing.Parser CommittedParsing.Lexeme

namespace Parser

variable {α : Type} {parser : Parser α} {language : TextLanguage α} {text : String} {failed : Failure}

abbrev Legible (parser : Parser α) : Prop := Confined Cause.Unbroken parser

theorem satisfy_legible {test : Char → Bool} {expected : String} (plain : '\n' ∉ expected.toList) :
    Legible (satisfy test expected) :=
  satisfy_confined plain fun c _ => ⟨plain,Text.quotedChar_not_feed c⟩

theorem char_legible (c : Char) : Legible (char c) := satisfy_legible (Text.quotedChar_not_feed c)

theorem oneOf_legible (set : String) : Legible (oneOf set) := by
  refine satisfy_legible ?_
  rw [String.toList_append,List.mem_append,not_or]
  exact ⟨by decide,Text.quotedText_not_feed set⟩

-- A complete parse fails with a broken message exactly if a line feed is left over.
theorem parseComplete_oneLine (accepts : Accepts parser language) (legible : Legible parser)
    (ran : (parser.parseComplete text).result = .error failed) :
    failed.OneLine ↔ ¬ ∃ value front rest, text.toList = front ++ '\n' :: rest ∧ language value front ('\n' :: rest) := by
  rw [Failure.oneLine_exact]
  have reads {value : α} {front rest : List Char} (whole : text.toList = front ++ '\n' :: rest)
      (spelled : language value front ('\n' :: rest)) :
      ∃ stop, Succeeds parser (Cursor.start text) value stop ∧ stop.rest = '\n' :: rest := by
    obtain ⟨stop,_,left,success⟩ := accepts_front accepts .start whole spelled
    exact ⟨stop,success,left⟩
  rcases pair_fails.mp (map_fails.mp (parseComplete_error.mp ran)) with inner | ⟨value,stop,_,read,leftover,rfl⟩
  · refine iff_of_true (legible inner) ?_
    rintro ⟨_,_,_,whole,spelled⟩
    obtain ⟨_,success,_⟩ := reads whole spelled
    exact succeeds_not_fails success inner
  · obtain ⟨c,next,rfl⟩ := eof_fails.mp leftover
    obtain ⟨rest,left⟩ : ∃ rest, stop.rest = c :: rest := List.head?_eq_some_iff.mp next
    obtain ⟨front,passed,spelled⟩ := (accepts .start).mp read
    have cut := passed.2.1
    rw [left,start_rest] at cut
    rw [left] at spelled
    change c ≠ '\n' ↔ _
    rw [not_iff_not]
    constructor
    · rintro rfl
      exact ⟨value,front,rest,cut,spelled⟩
    · rintro ⟨_,_,_,whole,feed⟩
      obtain ⟨_,success,ending⟩ := reads whole feed
      obtain ⟨_,rfl⟩ := succeeds_unique read success
      exact (List.cons.inj (left.symm.trans ending)).1

end Parser

namespace Lexeme

theorem digit_legible : Legible digit := satisfy_legible (by decide)

theorem letter_legible : Legible letter := satisfy_legible (by decide)

theorem nonNewline_legible : Legible nonNewline := satisfy_legible (by decide)

theorem decimal_legible : Legible decimal := by
  refine tryMap_confined (many1_confined digit_legible trivial) ?_
  intro cursor digits stop message read refused
  have all : ∀ c ∈ digits, c.isDigit = true := many1_kind read
  have above := checkDecimal_above all (checkDecimal_refuses all refused)
  obtain rfl : _ = message := Except.error.inj (above.symm.trans refused)
  simp only [Cause.Unbroken,String.toList_append,String.toList_ofList,List.mem_append,not_or]
  exact ⟨by decide,fun member => absurd (all '\n' member) (by decide)⟩

theorem skipWhitespace_legible : Legible skipWhitespace := map_confined _ (many_confined (oneOf_legible _) trivial)

theorem skipLineEnds_legible : Legible skipLineEnds := map_confined _ (many_confined (char_legible _) trivial)

theorem skipComments_legible : Legible skipComments := by
  have body : Legible (many nonNewline) := many_confined nonNewline_legible trivial
  have whole : Legible comment := pair_confined (pair_confined (oneOf_legible _) body) skipWhitespace_legible
  exact map_confined _ (many_confined whole trivial)

theorem word_legible : Legible (many1 letter).recognize := recognize_confined (many1_confined letter_legible trivial)

end Lexeme

namespace Version

theorem number_legible : Legible number := by
  refine tryMap_confined decimal_legible ?_
  intro cursor n stop message _ refused
  unfold checkNumber at refused
  split at refused
  · cases refused
  · cases refused
    simp only [Cause.Unbroken,String.toList_append,List.mem_append,not_or]
    exact ⟨by decide,repr_unbroken n⟩

theorem tags_legible : Legible tags := by
  have one : Legible tag := orElse_confined (map_confined _ number_legible) (map_confined _ word_legible)
  exact separatedBy_confined one (char_legible _) trivial

theorem tagSection_legible (marker : Char) : Legible (tagSection marker) :=
  orElse_confined (right_confined (char_legible marker) tags_legible) (pure_confined [])

theorem grammar_legible : Legible grammar := by
  have first := left_confined number_legible (char_legible '.')
  have second := left_confined (pair_confined first number_legible) (char_legible '.')
  have third := pair_confined second number_legible
  exact map_confined _ (pair_confined (pair_confined third (tagSection_legible '-')) (tagSection_legible '+'))

end Version

namespace Literal

theorem fraction_legible : Legible fraction := by
  refine tryMap_confined (pair_confined (left_confined decimal_legible (char_legible '/')) decimal_legible) ?_
  intro cursor parts stop message _ refused
  rw [checkFraction_refuses refused]
  decide

end Literal

namespace Ini

theorem skipTrivia_legible : Legible skipTrivia := right_confined skipWhitespace_legible skipComments_legible

theorem assignment_legible : Legible assignment := by
  have value : Legible (many1 nonNewline).recognize := recognize_confined (many1_confined nonNewline_legible trivial)
  exact left_confined (pair_confined (left_confined word_legible (char_legible '=')) value) skipLineEnds_legible

theorem sectionBody_legible : Legible sectionBody := by
  have heading : Legible header := between_confined (char_legible '[') word_legible (char_legible ']')
  have body : Legible (many1 assignment) := many1_confined assignment_legible trivial
  exact mapReporting_confined _ (pair_confined (left_confined heading skipLineEnds_legible) body)

theorem document_legible : Legible document := by
  have padded := left_confined sectionBody_legible skipTrivia_legible
  exact mapReporting_confined _ (right_confined skipTrivia_legible (many1_confined padded trivial))

theorem document_passes_feeds {config : Config} {front rest : List Char} :
    ¬ documentLanguage config front ('\n' :: rest) := by
  rintro ⟨_,_,_,_,_,⟨some,items⟩,_⟩
  obtain ⟨_,_,ends⟩ := items_row (items_mono (fun _ _ _ => greedy_padded) items)
  cases ends some '\n' rfl

end Ini

-- A version or a fraction fails with a broken message exactly if it ends where a line feed follows; a configuration
-- never does. Every other message is one line, and the first of the report.
theorem messages_one_line (text : String) (failed : Failure) :
    ((Version.parse text).result = .error failed →
      (failed.OneLine ↔ ¬ ∃ v front rest, text.toList = front ++ '\n' :: rest ∧ Version.Spelled v front)) ∧
    ((Fraction.parse text).result = .error failed →
      (failed.OneLine ↔ ¬ ∃ f front rest, text.toList = front ++ '\n' :: rest ∧ Fraction.Spelled f front)) ∧
    ((Config.parse text).result = .error failed → failed.OneLine) := by
  refine ⟨?_,?_,?_⟩
  · intro ran
    rw [parseComplete_oneLine Version.grammar_accepts Version.grammar_legible ran]
    have ends (rest : List Char) : Stops Version.isVersionChar ('\n' :: rest) := stops_cons.mpr rfl
    simp only [Version.grammar_spelled (ends _)]
  · intro ran
    rw [parseComplete_oneLine Literal.fraction_accepts Literal.fraction_legible ran]
    have ends (rest : List Char) : Stops Char.isDigit ('\n' :: rest) := stops_cons.mpr rfl
    simp only [ends,and_true]
  · intro ran
    refine (parseComplete_oneLine Ini.document_accepts Ini.document_legible ran).mpr ?_
    rintro ⟨_,_,_,_,spelled⟩
    exact Ini.document_passes_feeds spelled

theorem feeds_told :
    (∃ failed, (Version.parse "1.2.3\n").result = .error failed ∧ ¬ failed.OneLine) ∧
    (∃ failed, (Fraction.parse "1/0\n").result = .error failed ∧ failed.OneLine ∧
      ¬ ∃ f front rest, "1/0\n".toList = front ++ '\n' :: rest ∧ Fraction.Spelled f front) ∧
    ∃ failed, (Config.parse "[a]\n\n").result = .error failed ∧ failed.OneLine := by
  have left : (Version.parse "1.2.3\n").result = .error ⟨⟨.trailing '\n',⟨"1.2.3\n",5⟩⟩,true⟩ :=
    parseComplete_error.mpr (by decide +kernel)
  have zero : (Fraction.parse "1/0\n").result =
      .error ⟨⟨.rejected "division by zero: denominator is 0",⟨"1/0\n",0⟩⟩,true⟩ :=
    parseComplete_error.mpr (by decide +kernel)
  have missing : (Config.parse "[a]\n\n").result = .error ⟨⟨.endOfInput "letter",⟨"[a]\n\n",5⟩⟩,true⟩ :=
    parseComplete_error.mpr (by decide +kernel)
  obtain ⟨version,_,_⟩ := messages_one_line "1.2.3\n" ⟨⟨.trailing '\n',⟨"1.2.3\n",5⟩⟩,true⟩
  obtain ⟨_,fraction,_⟩ :=
    messages_one_line "1/0\n" ⟨⟨.rejected "division by zero: denominator is 0",⟨"1/0\n",0⟩⟩,true⟩
  obtain ⟨_,_,config⟩ := messages_one_line "[a]\n\n" ⟨⟨.endOfInput "letter",⟨"[a]\n\n",5⟩⟩,true⟩
  refine ⟨⟨_,left,?_⟩,⟨_,zero,?_⟩,_,missing,config missing⟩
  · have one : Version.Numeral 1 ['1'] := ⟨by decide,rfl,by decide⟩
    have two : Version.Numeral 2 ['2'] := ⟨by decide,rfl,by decide⟩
    have three : Version.Numeral 3 ['3'] := ⟨by decide,rfl,by decide⟩
    have spelled : Version.Spelled ⟨1,2,3,[],[]⟩ "1.2.3".toList :=
      ⟨['1'],['2'],['3'],[],[],rfl,one,two,three,.inl ⟨rfl,rfl⟩,.inl ⟨rfl,rfl⟩⟩
    exact fun line => (version left).mp line ⟨_,"1.2.3".toList,[],rfl,spelled⟩
  · have line := (Failure.oneLine_exact ⟨⟨.rejected "division by zero: denominator is 0",⟨"1/0\n",0⟩⟩,true⟩).mpr (by decide)
    exact ⟨line,(fraction zero).mp line⟩

theorem trailing_feed_breaks_message : ∃ failed, (Version.parse "1.2.3\n").result = .error failed ∧
    failed.message = "unexpected trailing input at line 1, byte offset 5: found '\n'" ∧
    '\n' ∈ failed.message.toList ∧
    (Text.lines failed.report.toList).head? = some "unexpected trailing input at line 1, byte offset 5: found '".toList := by
  have ran : (Version.parse "1.2.3\n").result = .error ⟨⟨.trailing '\n',⟨"1.2.3\n",5⟩⟩,true⟩ :=
    parseComplete_error.mpr (by decide +kernel)
  exact ⟨_,ran,by decide,by decide,by decide⟩

end CommittedParsing
