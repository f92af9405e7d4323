import CommittedParsing.Proofs.Ini.Halting
import CommittedParsing.Proofs.Parser.FirstWrong

namespace CommittedParsing.Ini

open CommittedParsing.Parser CommittedParsing.Lexeme

theorem document_taken {config : Config} {read after : List Char} (taken : documentLanguage config read after) :
    ∃ entries, Document entries read := by
  obtain ⟨gap,rest,entries,rfl,⟨trivia,_⟩,⟨some,items⟩,_⟩ := taken
  obtain ⟨row,_⟩ := items_row (items_mono (fun _ _ _ => greedy_padded) items)
  have ended : ∀ read, Settled read after [] := fun read => .inr (.inr fun _ => .inl rfl)
  have before : Settled gap (rest ++ after) (rest ++ []) := .inr (.inr (endsLine_append fun _ => .inl rfl))
  rw [List.append_nil] at before
  exact ⟨entries,gap,rest,rfl,trivia_lineBound trivia before,some,row_lineBound padded_lineBound row (ended rest)⟩

theorem document_extendable {entries : List Config.Written} {front more : List Char}
    (written : Document entries (front ++ more)) : Extendable document front := by
  refine ⟨more,Config.ofWritten entries,(parse_written _ _).mpr ⟨entries,?_,rfl⟩⟩
  rw [String.toList_ofList]
  exact written

-- A failed parse has found an unexpected character, the end of the text or something left over, at the end of the
-- longest front with which a document begins.
theorem parse_first_wrong (text : String) (failed : Failure) (ran : (Config.parse text).result = .error failed) :
    ((∃ expected found, failed.fault.cause = .unexpected expected found) ∨
      (∃ expected, failed.fault.cause = .endOfInput expected) ∨ ∃ found, failed.fault.cause = .trailing found) ∧
    AtFirstWrong document text failed := by
  obtain ⟨front,rest,whole,placed,halted⟩ := parseComplete_halts document_accepts document_halts ran
  have begun : Extendable document front ∧ Tells failed.fault.cause rest := by
    rcases halted with ⟨⟨more,entries,written⟩,tells⟩ | ⟨⟨config,taken⟩,tells⟩
    · exact ⟨document_extendable written,tells⟩
    · obtain ⟨entries,written⟩ := document_taken taken
      rw [← List.append_nil front] at written
      exact ⟨document_extendable written,tells⟩
  obtain ⟨extendable,tells⟩ := begun
  have composed : Composed ⟨false,false,false,false⟩ document := document_composed
  exact ⟨tells_kind tells,first_wrong ⟨rfl,rfl,rfl⟩ composed ran whole placed tells extendable⟩

theorem stray_text_first_wrong : ∃ failed, (Config.parse "[a]x=1\n;c\n[b]y=2\n z").result = .error failed ∧
    failed.position = 18 ∧ failed.fault.cause = .trailing 'z' ∧
    AtFirstWrong document "[a]x=1\n;c\n[b]y=2\n z" failed := by
  have ran : (Config.parse "[a]x=1\n;c\n[b]y=2\n z").result =
      .error ⟨⟨.trailing 'z',⟨"[a]x=1\n;c\n[b]y=2\n z",18⟩⟩,true⟩ :=
    parseComplete_error.mpr (by decide +kernel)
  exact ⟨_,ran,rfl,rfl,(parse_first_wrong _ _ ran).2⟩

end CommittedParsing.Ini
