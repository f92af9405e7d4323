import CommittedParsing.Proofs.Ini.Halting
import CommittedParsing.Proofs.Parser.Complete

namespace CommittedParsing.Ini

open CommittedParsing.Parser CommittedParsing.Lexeme

section Texts

variable {front gap one other : List Char} {entries others : List Config.Written}

-- Where the first document ends its last line, its last section takes up what comes before the second one.
theorem document_append (filled : Filler front) (between : Filler gap) (first : Document entries one)
    (ended : one.getLast? = some '\n') (second : Document others other) :
    Document (entries ++ others) (front ++ one ++ gap ++ other) := by
  obtain ⟨before,body,rfl,leading,some,row⟩ := first
  obtain ⟨middle,rest,rfl,inner,_,later⟩ := second
  have settled : Settled (before ++ body) [] (gap ++ middle ++ rest) := .inr (.inl ended)
  have around := settled_front settled
  rw [List.append_nil] at around
  have opening : Trivia (front ++ before) (body ++ (gap ++ middle) ++ rest) := by
    rw [List.append_assoc body]
    exact trivia_append (filler_trivia filled _) (trivia_lineBound leading around)
  have closing : Trivia (gap ++ middle) rest := trivia_append (filler_trivia between _) inner
  have kept := row_lineBound padded_lineBound row (settled_back settled)
  have absorbed := row_absorbs (fun padded => padded_absorbs closing padded) kept some
  refine ⟨front ++ before,body ++ (gap ++ middle) ++ rest,by simp,opening,by simp [some],row_append ?_ later⟩
  rw [List.append_nil]
  exact absorbed

end Texts

section Trivia

theorem skipTrivia_front {front : String} (text : String) (filled : Filler front.toList) : ∃ opened farther,
    Succeeds skipTrivia (Cursor.start text) () opened ∧ Succeeds skipTrivia (Cursor.start (front ++ text)) () farther ∧
    Cursor.Shifted front farther opened := by
  obtain ⟨_,opened,ran⟩ := halts_never skipTrivia_halts (.start : Cursor.Reached text _)
  obtain ⟨gap,passed,trivia,stops⟩ := (skipTrivia_accepts .start).mp ran
  have whole : (Cursor.start (front ++ text)).rest = front.toList ++ gap ++ opened.rest := by
    rw [Cursor.start_rest,String.toList_append,List.append_assoc]
    exact congrArg (front.toList ++ ·) passed.2.1
  obtain ⟨farther,reads,behind⟩ := Cursor.reads_front whole
  have further : Trivia (front.toList ++ gap) farther.rest := by
    rw [behind]
    exact trivia_append (filler_trivia filled _) trivia
  refine ⟨opened,farther,ran,(skipTrivia_accepts .start).mpr ⟨_,reads,further,?_⟩,?_,?_,behind⟩
  · rw [behind]
    exact stops
  · rw [reads.1,passed.1]
    rfl
  · rw [reads.2.2,passed.2.2,Text.byteLength_append,Text.byteSize_toList]
    simp

end Trivia

-- Documents with fillers in front and between are a document, in which the second one counts before the first; and a
-- filler in front changes nothing about any text but the places of its failures.
theorem parse_compose :
    (∀ front one gap other : String, ∀ first second : Config, Filler front.toList → Filler gap.toList →
      (Config.parse one).result = .ok first → one.toList.getLast? = some '\n' → (Config.parse other).result = .ok second →
      ∃ config, (Config.parse (front ++ one ++ gap ++ other)).result = .ok config ∧
        ∀ header, config.get? header = (second.get? header).or (first.get? header)) ∧
    ∀ front text : String, Filler front.toList →
      (∀ config, (Config.parse (front ++ text)).result = .ok config ↔ (Config.parse text).result = .ok config) ∧
      ∀ failed, (Config.parse text).result = .error failed →
        ∃ later, (Config.parse (front ++ text)).result = .error later ∧ later.Behind front failed := by
  constructor
  · intro front one gap other first second filled between ran ended also
    obtain ⟨entries,written,rfl⟩ := (parse_written one first).mp ran
    obtain ⟨others,writes,rfl⟩ := (parse_written other second).mp also
    refine ⟨_,(parse_written _ _).mpr ⟨entries ++ others,?_,rfl⟩,Config.ofWritten_append entries others⟩
    rw [String.toList_append,String.toList_append,String.toList_append]
    exact document_append filled between written ended writes
  · intro front text filled
    obtain ⟨opened,farther,skipped,also,shift⟩ := skipTrivia_front text filled
    have composed : Composed ⟨false,false,false,false⟩ (many1 (sectionBody.left skipTrivia)) := sections_composed
    exact parseComplete_front rfl composed skipped also shift

theorem commented_documents_compose : Filler " ;c\n".toList ∧ Filler "#c\n ".toList ∧
    (∃ config, (Config.parse (" ;c\n" ++ "[a]x=1\n" ++ "#c\n " ++ "[a]y=2")).result = .ok config ∧
      config.value? "a" "x" = none ∧ config.value? "a" "y" = some "2") ∧
    ∃ later, (Config.parse (" ;c\n" ++ "[a")).result = .error later ∧ later.position = 6 ∧ later.consumed = true := by
  have inLine : ∀ c ∈ ['c'], isInLine c = true := by simp [isInLine]
  have front : Filler " ;c\n".toList := .blank rfl (.line rfl inLine .nil)
  have between : Filler ('#' :: (['c'] ++ '\n' :: [' '])) := .line rfl inLine (.blank rfl .nil)
  have first : (Config.parse "[a]x=1\n").result = .ok (Config.ofWritten [("a",[("x","1")])]) :=
    parseComplete_ok.mpr ⟨⟨"[a]x=1\n",7,[]⟩,by decide +kernel⟩
  have second : (Config.parse "[a]y=2").result = .ok (Config.ofWritten [("a",[("y","2")])]) :=
    parseComplete_ok.mpr ⟨⟨"[a]y=2",6,[]⟩,by decide +kernel⟩
  have broken : (Config.parse "[a").result = .error ⟨⟨.endOfInput "']'",⟨"[a",2⟩⟩,true⟩ :=
    parseComplete_error.mpr (by decide +kernel)
  obtain ⟨config,parsed,found⟩ := parse_compose.1 " ;c\n" _ "#c\n " _ _ _ front between first rfl second
  obtain ⟨later,refused,behind⟩ := (parse_compose.2 _ "[a" front).2 _ broken
  refine ⟨front,between,⟨config,parsed,?_,?_⟩,later,refused,behind.offset,behind.committed (by decide)⟩
  · rw [Config.value?,found]
    decide
  · rw [Config.value?,found]
    decide

end CommittedParsing.Ini
