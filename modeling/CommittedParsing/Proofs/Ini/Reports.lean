import CommittedParsing.Proofs.Ini.Recurrence
import CommittedParsing.Proofs.Ini.Sections
import CommittedParsing.Proofs.Parser.Bodies

namespace CommittedParsing.Ini

open CommittedParsing.Parser CommittedParsing.Lexeme

section Silence

theorem skipWhitespace_quiet : Quiet skipWhitespace := map_quiet _ (many_quiet (satisfy_quiet _ _))

theorem skipLineEnds_quiet : Quiet skipLineEnds := map_quiet _ (many_quiet (satisfy_quiet _ _))

theorem skipTrivia_quiet : Quiet skipTrivia := by
  have line : Quiet ((oneOf commentMarkers).pair (many nonNewline)) :=
    pair_quiet (satisfy_quiet _ _) (many_quiet (satisfy_quiet _ _))
  exact right_quiet skipWhitespace_quiet (map_quiet _ (many_quiet (pair_quiet line skipWhitespace_quiet)))

theorem name_quiet : Quiet (many1 letter).recognize := recognize_quiet (many1_quiet (satisfy_quiet _ _))

theorem assignment_quiet : Quiet assignment := by
  have naming : Quiet ((many1 letter).recognize.left (char '=')) := left_quiet name_quiet (satisfy_quiet _ _)
  exact left_quiet (pair_quiet naming (recognize_quiet (many1_quiet (satisfy_quiet _ _)))) skipLineEnds_quiet

end Silence

def sectionParts : Parser Config.Written := (header.left skipLineEnds).pair (many1 assignment)

theorem sectionBody_parts : sectionBody = sectionParts.mapReporting Section.ofAssignments := rfl

theorem sectionParts_quiet : Quiet sectionParts := by
  have opening : Quiet header := between_quiet (satisfy_quiet _ _) name_quiet (satisfy_quiet _ _)
  exact pair_quiet (left_quiet opening skipLineEnds_quiet) (many1_quiet assignment_quiet)

theorem sectionParts_padding (source : String) : Padding source skipTrivia sectionParts where
  skipping := (section_padding source).skipping
  onward := by
    have opening : Composed .everything (header.left skipLineEnds) := composed_left header_composed skipLineEnds_composed
    exact composed_onward (.pair opening (.many1 assignment_composed))
  skips := (section_padding source).skips
  advances := by
    intro cursor entry stop reached ran
    have made : Succeeds sectionBody cursor (Config.sectionOf entry) stop := by
      rw [sectionBody_parts]
      exact mapReporting_succeeds.mpr ⟨entry,ran,rfl⟩
    exact (section_padding source).advances reached made

def nameReports (entry : Config.Written) : List Event := (recurring (entry.2.map Prod.fst)).map (.nameRepeated entry.1)

def headerReports (entries : List Config.Written) : List Event := (recurring (entries.map Prod.fst)).map .sectionRepeated

def closingReports (text : String) (entries : List Config.Written) : Outcome Config → List Event
  | .failure failed => [.failed failed]
  | .success _ stop =>
    headerReports entries ++ if stop.position < text.utf8ByteSize then [.leftover stop.position] else []

theorem ofWritten_reports (entries : List Config.Written) :
    (Config.ofSections (entries.map Config.sectionOf)).2 = headerReports entries := by
  rw [Config.ofSections_events,List.map_map]
  rfl

theorem document_reply {cursor opened last : Cursor} {entries : List Config.Written} {failed : Failure}
    (skipped : Skips skipTrivia cursor opened)
    (chain : Chain (Succeeds (sectionParts.left skipTrivia)) opened entries last)
    (missed : Fails sectionParts last failed) : document.run cursor =
      if failed.consumed ∨ entries = [] then
        ⟨.failure (failed.consumedIf (cursor.position < opened.position)),entries.flatMap nameReports⟩
      else ⟨.success (Config.ofWritten entries) last,entries.flatMap nameReports ++ headerReports entries⟩ := by
  have names : (fun entry => (Section.ofAssignments entry).2) = nameReports := funext Section.ofAssignments_events
  rw [← names,← ofWritten_reports]
  exact bodies_whole Section.ofAssignments Config.ofSections skipTrivia_quiet sectionParts_quiet skipped chain missed

theorem bodies_reports {text : String} {entries : List Config.Written}
    (found : Bodies skipTrivia sectionParts (Cursor.start text) entries) :
    (Config.parse text).events = .started text.utf8ByteSize :: entries.flatMap nameReports ++
      closingReports text entries (document.run (Cursor.start text)).outcome := by
  have padding := sectionParts_padding text
  have begun : Cursor.Reached text (Cursor.start text) := .start
  obtain ⟨opened,last,failed,skipped,chain,missed⟩ := found
  have reply := document_reply skipped chain missed
  unfold Config.parse
  by_cases broken : failed.consumed ∨ entries = []
  · rw [if_pos broken] at reply
    rw [parseComplete_refused reply,reply]
    rfl
  · have reached := trailing_reached padding (skips_reached padding begun skipped) chain
    rw [if_neg broken] at reply
    rw [parseComplete_stopped reached reply,reply,← List.cons_append,List.append_assoc]
    rfl

-- Every text has one list of sections whose bodies match, and the reports are those of their repeated names, whether
-- the text is a document or not, and then those of how reading has ended.
theorem parse_reports (text : String) : ∃ entries,
    (∀ others, Bodies skipTrivia sectionParts (Cursor.start text) others ↔ others = entries) ∧
    (Config.parse text).events = .started text.utf8ByteSize :: entries.flatMap nameReports ++
      closingReports text entries (document.run (Cursor.start text)).outcome := by
  obtain ⟨entries,found⟩ := bodies_exist (sectionParts_padding text) .start
  have only (others : List Config.Written) :
      Bodies skipTrivia sectionParts (Cursor.start text) others ↔ others = entries :=
    ⟨fun other => bodies_unique other found,fun same => same ▸ found⟩
  exact ⟨entries,only,bodies_reports found⟩

-- The section that repeats a header has matched, but the one after it is broken, so only the name is reported.
example : (Config.parse "[a]x=1\nx=2\n[a]y=3\n[b").events =
    [.started 20,.nameRepeated "a" "x",.failed ⟨⟨.endOfInput "']'",⟨"[a]x=1\nx=2\n[a]y=3\n[b",20⟩⟩,true⟩] := by
  decide +kernel

section Written

variable {text : String} {entries : List Config.Written}

theorem round_accepts : Accepts (sectionParts.left skipTrivia) Greedy := by
  refine accepts_congr (left_accepts parts_accepts skipTrivia_accepts) fun entry read after => ?_
  constructor
  · intro accepted
    obtain ⟨body,gap,cut,spelled,_,trivia⟩ := accepted
    exact ⟨body,gap,cut,spelled,trivia⟩
  · intro greedy
    obtain ⟨body,gap,cut,spelled,trivia⟩ := greedy
    exact ⟨body,gap,cut,spelled,(),trivia⟩

theorem written_bodies (written : Document entries text.toList) :
    Bodies skipTrivia sectionParts (Cursor.start text) entries := by
  obtain ⟨gap,rest,cut,trivia,some,row⟩ := written
  have first : Stops isGap rest := (row_opens (padded_opens rfl) row some).2
  obtain ⟨opened,passed,ahead,skipped⟩ := accepts_front skipTrivia_accepts .start cut ⟨trivia,first⟩
  obtain ⟨last,further,ended⟩ := Cursor.reads_front (ahead.trans (List.append_nil rest).symm)
  -- Nothing follows the last section, so the greedy reading has the same row.
  have items : Items Greedy (Stops isBracket) entries rest last.rest := ended ▸ rows_exact.mpr row
  have inside := Cursor.reads_reached .start passed
  obtain ⟨chain,failed,missed,_⟩ := (chain_items round_accepts parts_refuses inside).mpr ⟨rest,further,items⟩
  exact ⟨opened,last,failed,⟨(),skipped⟩,chain,missed⟩

theorem written_exact : Document entries text.toList ↔
    Bodies skipTrivia sectionParts (Cursor.start text) entries ∧ ∃ config, (Config.parse text).result = .ok config := by
  constructor
  · intro written
    exact ⟨written_bodies written,_,(parse_written text _).mpr ⟨entries,written,rfl⟩⟩
  · intro matched
    obtain ⟨found,config,accepted⟩ := matched
    obtain ⟨others,written,_⟩ := (parse_written text config).mp accepted
    exact bodies_unique (written_bodies written) found ▸ written

-- The reports on a document can be read off its sections as they are written.
theorem written_reports (written : Document entries text.toList) :
    (Config.parse text).events = .started text.utf8ByteSize :: entries.flatMap nameReports ++ headerReports entries := by
  obtain ⟨found,config,accepted⟩ := written_exact.mp written
  obtain ⟨stop,ran,atEnd⟩ := parseComplete_succeeds.mp accepted
  obtain ⟨_,passed,_⟩ := (document_accepts .start).mp ran
  have whole : ¬ stop.position < text.utf8ByteSize :=
    fun before => (Cursor.reached_unended (Cursor.reads_reached .start passed)).mp before atEnd
  rw [bodies_reports found,show (document.run (Cursor.start text)).outcome = .success config stop from ran,
    closingReports,if_neg whole,List.append_nil]

end Written

end CommittedParsing.Ini
