import CommittedParsing.Proofs.Ini.Halting
import CommittedParsing.Proofs.Number.Numeric
import CommittedParsing.Proofs.Version.FirstWrong

namespace CommittedParsing

open Cursor CommittedParsing.Parser CommittedParsing.Lexeme

namespace Parser

variable {α : Type} {parser : Parser α} {source : String} {cursor : Cursor}

-- The text does not fit, or a check has rejected a value.
abbrev Reasoned : FailureLanguage := Because fun cause after => Tells cause after ∨ ∃ message, cause = .rejected message

def Progresses (parser : Parser α) (cursor : Cursor) : Prop :=
  ∀ failed, Fails parser cursor failed → failed.fault.cause ≠ .noProgress

theorem reasoned_progresses (halts : Halts parser Reasoned) (reached : Reached source cursor) :
    Progresses parser cursor := by
  intro failed ran stuck
  obtain ⟨_,_,_,_,reason⟩ := halts reached ran
  rw [stuck] at reason
  rcases reason with tells | ⟨message,rejected⟩
  · cases tells
  · cases rejected

theorem missing_reasoned {test : Char → Bool} (halts : Halts parser (Missing test)) : Halts parser Reasoned :=
  halts_mono halts fun missing => .inl missing.2.2

theorem never_reasoned (halts : Halts parser Never) : Halts parser Reasoned := halts_mono halts False.elim

theorem char_reasoned (c : Char) : Halts (char c) Reasoned := missing_reasoned (satisfy_halts _ _)

theorem tryMap_reasoned {β : Type} {language : TextLanguage α} (convert : α → Except String β)
    (accepts : Accepts parser language) (halts : Halts parser Reasoned) : Halts (parser.tryMap convert) Reasoned := by
  refine halts_mono (tryMap_halts convert accepts halts) ?_
  intro read cause after halted
  rcases halted with reason | ⟨_,_,message,_,_,_,_,_,rejected⟩
  · exact reason
  · exact .inr ⟨message,rejected⟩

end Parser

namespace Lexeme

theorem decimal_reasoned : Halts decimal Reasoned := tryMap_reasoned checkDecimal run1_accepts (missing_reasoned run1_halts)

end Lexeme

namespace Literal

theorem fraction_reasoned : Halts fraction Reasoned := by
  have above := left_accepts decimal_accepts (char_accepts '/')
  have slash : Halts (decimal.left (char '/')) Reasoned :=
    map_halts _ (pair_because decimal_accepts decimal_reasoned (char_reasoned '/'))
  exact tryMap_reasoned checkFraction parts_accepts (pair_because above slash decimal_reasoned)

theorem signedInteger_reasoned : Halts signedInteger Reasoned := by
  have sign : Halts (optional (char '-')) Reasoned := never_reasoned (optional_halts _)
  have parts := pair_accepts sign_accepts decimal_accepts
  exact tryMap_reasoned checkSigned parts (pair_because sign_accepts sign decimal_reasoned)

theorem float_reasoned : Halts float Reasoned := halts_mono float_telling .inl

-- The failure of the literal is dropped, so that only the fraction's is left.
theorem numeric_reasoned : Halts numeric Reasoned := by
  intro source cursor failed reached ran
  exact fraction_reasoned reached (map_fails.mp (attempt_orElse_fails.mp ran).2)

end Literal

namespace Version

theorem atWord_reasoned {read after : List Char} {cause : Cause} (atWord : AtWord read cause after) :
    Reasoned read cause after := by
  rcases atWord with ⟨_,tells⟩ | ⟨_,rejected,_⟩
  · exact .inl tells
  · exact .inr rejected

theorem tag_reasoned : Halts tag Reasoned := halts_mono tag_halts atWord_reasoned

theorem tags_reasoned : Halts tags Reasoned := by
  refine halts_mono (separatedBy_halts tag_accepts (char_accepts '.') (char_nonempty '.') (satisfy_refuses _ _)
    tag_reasoned (char_reasoned '.')) ?_
  intro read cause after halted
  rcases halted with reason | ⟨_,_,_,_,_,⟨_,reason⟩ | ⟨_,_,_,_,_,reason⟩⟩
  · exact reason
  · exact reason
  · exact reason

theorem grammar_reasoned : Halts grammar Reasoned := by
  refine halts_mono grammar_halts ?_
  intro read cause after halted
  rcases halted with ⟨_,_,_,_,_,atWord⟩ | ⟨_,tells⟩
  · have reason := atWord_reasoned atWord
    exact reason
  · exact .inl tells

end Version

namespace Ini

theorem midway_reasoned {α β : Type} {parser : Parser α} {language : TextLanguage β}
    (halts : Halts parser (Midway language)) : Halts parser Reasoned := halts_mono halts fun midway => .inl midway.2

theorem paddedSection_reasoned : Halts paddedSection Reasoned :=
  map_halts _ (pair_because skipTrivia_accepts (never_reasoned skipTrivia_halts) (midway_reasoned sectionBody_halts))

theorem document_reasoned : Halts document Reasoned := halts_mono document_halts fun halted => .inl halted.2

end Ini

-- From every cursor that reading can come to, no grammar fails for lack of progress, and skipping does not fail.
theorem grammars_progress (source : String) (cursor : Cursor) (reached : Reached source cursor) :
    Progresses decimal cursor ∧ Progresses skipWhitespace cursor ∧ Progresses skipLineEnds cursor ∧
    Progresses skipComments cursor ∧ Progresses Literal.fraction cursor ∧ Progresses Literal.signedInteger cursor ∧
    Progresses Literal.float cursor ∧ Progresses Literal.numeric cursor ∧ Progresses Version.tag cursor ∧
    Progresses Version.tags cursor ∧ Progresses Version.grammar cursor ∧ Progresses Ini.header cursor ∧
    Progresses Ini.assignment cursor ∧ Progresses Ini.paddedSection cursor ∧ Progresses Ini.document cursor ∧
    (∃ stop, Succeeds skipWhitespace cursor () stop) ∧ (∃ stop, Succeeds skipLineEnds cursor () stop) ∧
    ∃ stop, Succeeds skipComments cursor () stop := by
  have progresses {α : Type} {parser : Parser α} (halts : Halts parser Reasoned) : Progresses parser cursor :=
    reasoned_progresses halts reached
  have succeeds {parser : Parser Unit} (halts : Halts parser Never) : ∃ stop, Succeeds parser cursor () stop := by
    obtain ⟨_,stop,ran⟩ := halts_never halts reached
    exact ⟨stop,ran⟩
  exact ⟨progresses decimal_reasoned,progresses (never_reasoned skipWhitespace_halts),
    progresses (never_reasoned skipLineEnds_halts),progresses (never_reasoned skipComments_halts),
    progresses Literal.fraction_reasoned,progresses Literal.signedInteger_reasoned,progresses Literal.float_reasoned,
    progresses Literal.numeric_reasoned,progresses Version.tag_reasoned,progresses Version.tags_reasoned,
    progresses Version.grammar_reasoned,progresses (Ini.midway_reasoned Ini.header_halts),
    progresses (Ini.midway_reasoned Ini.assignment_halts),progresses Ini.paddedSection_reasoned,
    progresses Ini.document_reasoned,succeeds skipWhitespace_halts,succeeds skipLineEnds_halts,
    succeeds skipComments_halts⟩

theorem unfinished_section_progresses :
    Reached "é;n\n[a]\nx" ⟨"é;n\n[a]\nx",2,";n\n[a]\nx".toList⟩ ∧
    (∃ failed, Fails Ini.document ⟨"é;n\n[a]\nx",2,";n\n[a]\nx".toList⟩ failed ∧ failed.fault.cause ≠ .noProgress) ∧
    ∃ stop, Succeeds skipComments ⟨"é;n\n[a]\nx",2,";n\n[a]\nx".toList⟩ () stop := by
  have reached : Reached "é;n\n[a]\nx" ⟨"é;n\n[a]\nx",2,";n\n[a]\nx".toList⟩ :=
    .advance .start ((advance_exact _ 'é' _).mpr (by decide +kernel))
  have missing : Fails Ini.document ⟨"é;n\n[a]\nx",2,";n\n[a]\nx".toList⟩
      ⟨⟨.endOfInput "'='",⟨"é;n\n[a]\nx",10⟩⟩,true⟩ := by decide +kernel
  obtain ⟨_,_,_,_,_,_,_,_,_,_,_,_,_,_,document,_,_,comments⟩ := grammars_progress _ _ reached
  exact ⟨reached,⟨_,missing,document _ missing⟩,comments⟩

end CommittedParsing
