import CommittedParsing.Ini.Grammar
import CommittedParsing.Proofs.Ini.Config
import CommittedParsing.Proofs.Lexeme

namespace CommittedParsing.Ini

open CommittedParsing.Parser CommittedParsing.Lexeme

-- Blanks, then any number of comments, each with the blanks after it.
def Trivia (read after : List Char) : Prop := ∃ blanks rest comments, read = blanks ++ rest ∧
  (∀ c ∈ blanks, isBlank c = true) ∧ Row Comment comments rest after

-- A name, the equals sign, the value up to the end of the line, and any line feeds.
def Assignment : TextLanguage (String × String) := fun (name,value) read after => ∃ feeds,
  read = name.toList ++ '=' :: (value.toList ++ feeds) ∧ Run Char.isAlpha name.toList ∧ Run isInLine value.toList ∧
  EndsLine (feeds ++ after) ∧ ∀ c ∈ feeds, isFeed c = true

-- A header in brackets, any line feeds, and at least one assignment.
def SectionText : TextLanguage Config.Written := fun (header,pairs) read after => ∃ feeds body,
  read = '[' :: (header.toList ++ ']' :: (feeds ++ body)) ∧ Run Char.isAlpha header.toList ∧
  (∀ c ∈ feeds, isFeed c = true) ∧ pairs ≠ [] ∧ Row Assignment pairs body after

def Padded : TextLanguage Config.Written := fun entry read after => ∃ body gap, read = body ++ gap ∧
  SectionText entry body (gap ++ after) ∧ Trivia gap after

-- Trivia, then at least one section, each with the trivia after it.
def Document (sections : List Config.Written) (text : List Char) : Prop := ∃ gap rest, text = gap ++ rest ∧
  Trivia gap rest ∧ sections ≠ [] ∧ Row Padded sections rest []

def isGap (c : Char) : Bool := isBlank c || isMarker c

def isBracket (c : Char) : Bool := c == '['

section Trivia

variable {test : Char → Bool} {gap after : List Char}

theorem comment_apart (apart : ∀ c, isGap c = true → test c = false) : Opens test Comment := by
  intro value read after spelled
  obtain ⟨blanks,rfl,marks,_⟩ := spelled
  exact ⟨List.cons_ne_nil _ _,stops_cons.mpr (apart _ (Bool.or_eq_true_iff.mpr (.inr marks)))⟩

theorem trivia_stops (apart : ∀ c, isGap c = true → test c = false) (trivia : Trivia gap after)
    (stops : Stops test after) : Stops test (gap ++ after) := by
  obtain ⟨blanks,rest,comments,rfl,all,row⟩ := trivia
  have later : Stops test (rest ++ after) := row_stops (comment_apart apart) row fun _ => stops
  have before : Stops test blanks := by
    intro c first
    exact apart c (Bool.or_eq_true_iff.mpr (.inl (all c (List.mem_of_mem_head? first))))
  rw [List.append_assoc]
  exact stops_append before later

theorem trivia_feeds (trivia : Trivia gap after) (stops : Stops isFeed after) : ∃ feeds rest, gap = feeds ++ rest ∧
    (∀ c ∈ feeds, isFeed c = true) ∧ Trivia rest after ∧ Stops isFeed (rest ++ after) := by
  obtain ⟨blanks,rest,comments,rfl,all,row⟩ := trivia
  obtain ⟨feeds,others,rfl,fed,ends⟩ := run_split isFeed blanks
  have later : Stops isFeed (rest ++ after) := by
    refine row_stops (opens_mono ?_ comment_opens) row fun _ => stops
    intro c feed
    exact Bool.or_eq_true_iff.mpr (.inr feed)
  refine ⟨feeds,others ++ rest,List.append_assoc _ _ _,fed,⟨others,rest,comments,rfl,?_,row⟩,?_⟩
  · exact fun c member => all c (List.mem_append_right _ member)
  · rw [List.append_assoc]
    exact stops_append ends later

theorem skipTrivia_accepts : Accepts skipTrivia fun _ read after => Trivia read after ∧ Stops isGap after := by
  refine accepts_congr (right_accepts skipWhitespace_accepts skipComments_accepts) fun _ read after => ?_
  unfold isGap
  rw [stops_or]
  constructor
  · intro accepted
    obtain ⟨blanks,rest,rfl,⟨_,all,ends⟩,comments,row,unmarked,stops⟩ := accepted
    refine ⟨⟨blanks,rest,comments,rfl,all,row⟩,?_,unmarked⟩
    cases comments with
    | nil =>
        cases row
        exact ends
    | cons => exact stops (List.cons_ne_nil _ _)
  · intro spelled
    obtain ⟨⟨blanks,rest,comments,rfl,all,row⟩,unblank,unmarked⟩ := spelled
    have ends := row_stops comment_opens row fun _ => unblank
    exact ⟨blanks,rest,rfl,⟨(),all,ends⟩,comments,row,unmarked,fun _ => unblank⟩

end Trivia

section Assignments

variable {entry : String × String} {pairs : List (String × String)} {read feeds after : List Char} {test : Char → Bool}

theorem name_accepts : Accepts (many1 letter).recognize fun text read after =>
    read = text.toList ∧ Run Char.isAlpha read ∧ Stops Char.isAlpha after := word_accepts

theorem name_nonempty : Nonempty fun (text : String) read after =>
    read = text.toList ∧ Run Char.isAlpha read ∧ Stops Char.isAlpha after := fun _ _ spelled => spelled.2.1.1 rfl

theorem name_refuses : Refuses (many1 letter).recognize (Stops Char.isAlpha) := recognize_refuses run1_refuses

theorem value_accepts : Accepts (many1 nonNewline).recognize fun text read after =>
    read = text.toList ∧ Run isInLine read ∧ Stops isInLine after := word_accepts

theorem alpha_not_feed {c : Char} (alpha : c.isAlpha = true) : isFeed c = false := by
  refine beq_false_of_ne fun feed => ?_
  subst feed
  cases alpha

theorem assignment_opens : Opens isFeed Assignment := by
  intro entry read after spelled
  obtain ⟨feeds,rfl,⟨nonempty,alpha⟩,_⟩ := spelled
  refine ⟨by simp,(stops_append_nonempty nonempty).mpr ?_⟩
  intro c first
  exact alpha_not_feed (alpha c (List.mem_of_mem_head? first))

theorem assignment_nonempty : Nonempty fun entry read after => Assignment entry read after ∧ Stops isFeed after :=
  fun _ _ spelled => (assignment_opens _ _ _ spelled.1).1 rfl

theorem assignment_accepts : Accepts assignment fun entry read after =>
    Assignment entry read after ∧ Stops isFeed after := by
  have naming := left_accepts name_accepts (char_accepts '=')
  refine accepts_congr (left_accepts (pair_accepts naming value_accepts) skipLineEnds_accepts) fun entry read after => ?_
  obtain ⟨name,value⟩ := entry
  constructor
  · intro accepted
    obtain ⟨_,feeds,rfl,⟨_,_,rfl,⟨_,_,rfl,⟨rfl,named,_⟩,_,rfl,_⟩,rfl,valued,ends⟩,_,fed,stops⟩ := accepted
    exact ⟨⟨feeds,by simp,named,valued,endsLine_stops.mpr ends,fed⟩,stops⟩
  · intro spelled
    obtain ⟨⟨feeds,rfl,named,valued,ends,fed⟩,stops⟩ := spelled
    refine ⟨name.toList ++ ['='] ++ value.toList,feeds,by simp,
      ⟨_,_,rfl,⟨_,_,rfl,⟨rfl,named,?_⟩,'=',rfl,rfl⟩,rfl,valued,?_⟩,(),fed,stops⟩
    · exact stops_cons.mpr rfl
    · exact endsLine_stops.mp ends

theorem assignment_refuses : Refuses assignment (Stops Char.isAlpha) := by
  have naming := left_accepts name_accepts (char_accepts '=')
  have named : Refuses ((many1 letter).recognize.left (char '=')) (Stops Char.isAlpha) :=
    left_refuses name_accepts name_nonempty name_refuses
  exact left_refuses (pair_accepts naming value_accepts) (then_nonempty (thenSome_nonempty name_nonempty))
    (pair_refuses naming (thenSome_nonempty name_nonempty) named)

theorem assignments_accepts : Accepts (many1 assignment) fun pairs read after =>
    pairs ≠ [] ∧ Row Assignment pairs read after ∧ Stops Char.isAlpha after ∧ Stops isFeed after := by
  refine accepts_congr (many1_accepts assignment_accepts assignment_nonempty assignment_refuses) fun pairs read after => ?_
  constructor
  · intro accepted
    obtain ⟨some,items⟩ := accepted
    obtain ⟨row,refusing,stops⟩ := items_row items
    exact ⟨some,row,refusing,stops some⟩
  · intro spelled
    obtain ⟨some,row,refusing,stops⟩ := spelled
    exact ⟨some,row_items assignment_opens row refusing fun _ => stops⟩

theorem assignment_feeds (spelled : Assignment entry read (feeds ++ after)) (fed : ∀ c ∈ feeds, isFeed c = true) :
    Assignment entry (read ++ feeds) after := by
  obtain ⟨own,rfl,named,valued,ends,all⟩ := spelled
  refine ⟨own ++ feeds,by simp,named,valued,?_,List.forall_mem_append.mpr ⟨all,fed⟩⟩
  rw [List.append_assoc]
  exact ends

theorem assignments_feeds (row : Row Assignment pairs read (feeds ++ after)) (some : pairs ≠ [])
    (fed : ∀ c ∈ feeds, isFeed c = true) : Row Assignment pairs (read ++ feeds) after :=
  row_absorbs (fun spelled => assignment_feeds spelled fed) row some

end Assignments

section Sections

variable {entry : Config.Written} {entries : List Config.Written} {read feeds gap rest after : List Char}

theorem header_accepts : Accepts header fun text read _ =>
    read = '[' :: (text.toList ++ [']']) ∧ Run Char.isAlpha text.toList := by
  refine accepts_congr (between_accepts (char_accepts '[') name_accepts (char_accepts ']')) fun text read after => ?_
  constructor
  · intro accepted
    obtain ⟨_,_,_,rfl,⟨_,rfl,_⟩,⟨rfl,run,_⟩,_,rfl,_⟩ := accepted
    exact ⟨rfl,run⟩
  · intro spelled
    obtain ⟨rfl,run⟩ := spelled
    exact ⟨['['],text.toList,[']'],rfl,⟨'[',rfl,rfl⟩,⟨rfl,run,stops_cons.mpr rfl⟩,']',rfl,rfl⟩

theorem header_nonempty : Nonempty fun (text : String) read (_ : List Char) =>
    read = '[' :: (text.toList ++ [']']) ∧ Run Char.isAlpha text.toList := by
  intro text after spelled
  cases spelled.1

theorem header_refuses : Refuses header (Stops isBracket) :=
  between_refuses (char_accepts '[') (char_nonempty '[') name_accepts (satisfy_refuses _ _)

-- The reader of a section goes on over letters and line feeds, so neither comes after it.
def SectionEnds (after : List Char) : Prop := Stops Char.isAlpha after ∧ Stops isFeed after

theorem parts_accepts : Accepts ((header.left skipLineEnds).pair (many1 assignment)) fun entry read after =>
    SectionText entry read after ∧ SectionEnds after := by
  refine accepts_congr (pair_accepts (left_accepts header_accepts skipLineEnds_accepts) assignments_accepts)
    fun entry read after => ?_
  obtain ⟨text,pairs⟩ := entry
  constructor
  · intro accepted
    obtain ⟨_,body,rfl,⟨_,feeds,rfl,⟨rfl,run⟩,_,fed,_⟩,some,row,ends⟩ := accepted
    exact ⟨⟨feeds,body,by simp,run,fed,some,row⟩,ends⟩
  · intro spelled
    obtain ⟨⟨feeds,body,rfl,run,fed,some,row⟩,ends⟩ := spelled
    have first : Stops isFeed (body ++ after) := row_stops assignment_opens row fun none => absurd none some
    exact ⟨'[' :: (text.toList ++ [']']) ++ feeds,body,by simp,⟨_,feeds,rfl,⟨rfl,run⟩,(),fed,first⟩,some,row,ends⟩

theorem sectionBody_accepts : Accepts sectionBody (Made Config.sectionOf fun entry read after =>
    SectionText entry read after ∧ SectionEnds after) := mapReporting_accepts _ parts_accepts

theorem parts_refuses : Refuses ((header.left skipLineEnds).pair (many1 assignment)) (Stops isBracket) := by
  have first : Refuses (header.left skipLineEnds) (Stops isBracket) :=
    left_refuses header_accepts header_nonempty header_refuses
  have opening := left_accepts header_accepts skipLineEnds_accepts
  exact pair_refuses opening (thenSome_nonempty header_nonempty) first

theorem sectionBody_refuses : Refuses sectionBody (Stops isBracket) := mapReporting_refuses _ parts_refuses

theorem section_nonempty : Nonempty SectionText := by
  intro entry after spelled
  obtain ⟨feeds,body,empty,_⟩ := spelled
  cases empty

theorem sectionBody_nonempty : Nonempty (Made Config.sectionOf fun entry read after =>
    SectionText entry read after ∧ SectionEnds after) :=
  made_nonempty Config.sectionOf fun entry after spelled => section_nonempty entry after spelled.1

theorem section_feeds (spelled : SectionText entry read (feeds ++ after)) (fed : ∀ c ∈ feeds, isFeed c = true) :
    SectionText entry (read ++ feeds) after := by
  obtain ⟨own,body,rfl,run,all,some,row⟩ := spelled
  exact ⟨own,body ++ feeds,by simp,run,all,some,assignments_feeds row some fed⟩

def Greedy : TextLanguage Config.Written := fun entry read after => ∃ body gap, read = body ++ gap ∧
  (SectionText entry body (gap ++ after) ∧ SectionEnds (gap ++ after)) ∧ Trivia gap after ∧ Stops isGap after

theorem alpha_apart {c : Char} (gap : isGap c = true) : c.isAlpha = false := by
  simp only [isGap,isBlank,isMarker,Bool.or_eq_true,beq_iff_eq] at gap
  rcases gap with (rfl | rfl) | (rfl | rfl) <;> rfl

-- The line feeds between a section and the trivia after it go to the section.
theorem padded_greedy (padded : Padded entry read after) (stops : Stops isGap after)
    (unnamed : Stops Char.isAlpha after) : Greedy entry read after := by
  obtain ⟨body,gap,rfl,spelled,trivia⟩ := padded
  have unfed : Stops isFeed after := by
    refine stops_mono ?_ stops
    intro c feed
    simp only [isFeed,beq_iff_eq] at feed
    subst feed
    rfl
  obtain ⟨feeds,rest,rfl,fed,others,ends⟩ := trivia_feeds trivia unfed
  refine ⟨body ++ feeds,rest,(List.append_assoc _ _ _).symm,⟨?_,?_,ends⟩,others,stops⟩
  · rw [List.append_assoc] at spelled
    exact section_feeds spelled fed
  · exact trivia_stops (fun _ => alpha_apart) others unnamed

theorem greedy_padded (greedy : Greedy entry read after) : Padded entry read after ∧ Stops isGap after := by
  obtain ⟨body,gap,cut,⟨spelled,_⟩,trivia,stops⟩ := greedy
  exact ⟨⟨body,gap,cut,spelled,trivia⟩,stops⟩

theorem padded_opens {test : Char → Bool} (bracket : test '[' = false) : Opens test Padded := by
  intro entry read after padded
  obtain ⟨_,gap,rfl,⟨feeds,body,rfl,_⟩,_⟩ := padded
  exact ⟨by simp,stops_cons.mpr bracket⟩

-- In a document, where nothing follows, the two readings of the line feeds give the same rows of sections.
theorem rows_exact : Items Greedy (Stops isBracket) entries rest [] ↔ Row Padded entries rest [] := by
  constructor
  · intro items
    exact (items_row (items_mono (fun _ _ _ => greedy_padded) items)).1
  · intro row
    have items : Items (fun entry read after => Padded entry read after ∧ Stops (fun c => isGap c || c.isAlpha) after)
        (Stops isBracket) entries rest [] := row_items (padded_opens rfl) row stops_nil fun _ => stops_nil
    refine items_mono ?_ items
    intro entry read after spelled
    obtain ⟨padded,stops⟩ := spelled
    obtain ⟨ungapped,unnamed⟩ := stops_or.mp stops
    exact padded_greedy padded ungapped unnamed

theorem padded_accepts : Accepts (sectionBody.left skipTrivia) (Made Config.sectionOf Greedy) := by
  refine accepts_congr (left_accepts sectionBody_accepts skipTrivia_accepts) fun result read after => ?_
  constructor
  · intro accepted
    obtain ⟨body,gap,cut,⟨entry,spelled,made⟩,_,trivia⟩ := accepted
    exact ⟨entry,⟨body,gap,cut,spelled,trivia⟩,made⟩
  · intro spelled
    obtain ⟨entry,⟨body,gap,cut,spelled,trivia⟩,made⟩ := spelled
    exact ⟨body,gap,cut,⟨entry,spelled,made⟩,(),trivia⟩

theorem padded_refuses : Refuses (sectionBody.left skipTrivia) (Stops isBracket) :=
  left_refuses sectionBody_accepts sectionBody_nonempty sectionBody_refuses

theorem greedy_nonempty : Nonempty Greedy := by
  intro entry after greedy
  obtain ⟨padded,_⟩ := greedy_padded greedy
  have opens : Opens isGap Padded := padded_opens rfl
  exact (opens entry [] after padded).1 rfl

theorem sections_accepts : Accepts (many1 (sectionBody.left skipTrivia)) (Made (List.map Config.sectionOf)
    fun entries read after => entries ≠ [] ∧ Items Greedy (Stops isBracket) entries read after) := by
  have nonempty := made_nonempty Config.sectionOf greedy_nonempty
  refine accepts_congr (many1_accepts padded_accepts nonempty padded_refuses) fun sections read after => ?_
  constructor
  · intro accepted
    obtain ⟨some,items⟩ := accepted
    obtain ⟨entries,greedy,rfl⟩ := (items_map Config.sectionOf).mp items
    exact ⟨entries,⟨fun none => some (List.map_eq_nil_iff.mpr none),greedy⟩,rfl⟩
  · intro spelled
    obtain ⟨entries,⟨some,greedy⟩,rfl⟩ := spelled
    exact ⟨fun none => some (List.map_eq_nil_iff.mp none),(items_map Config.sectionOf).mpr ⟨entries,greedy,rfl⟩⟩

end Sections

def documentLanguage : TextLanguage Config := fun config read after => ∃ gap rest entries, read = gap ++ rest ∧
  (Trivia gap (rest ++ after) ∧ Stops isGap (rest ++ after)) ∧
  (entries ≠ [] ∧ Items Greedy (Stops isBracket) entries rest after) ∧ Config.ofWritten entries = config

theorem document_accepts : Accepts document documentLanguage := by
  have whole := right_accepts skipTrivia_accepts sections_accepts
  refine accepts_congr (mapReporting_accepts Config.ofSections whole) fun config read after => ?_
  constructor
  · intro accepted
    obtain ⟨_,⟨gap,rest,cut,⟨_,trivia⟩,entries,spelled,rfl⟩,made⟩ := accepted
    exact ⟨gap,rest,entries,cut,trivia,spelled,made⟩
  · intro spelled
    obtain ⟨gap,rest,entries,cut,trivia,spelled,made⟩ := spelled
    exact ⟨_,⟨gap,rest,cut,⟨(),trivia⟩,entries,spelled,rfl⟩,made⟩

theorem parse_written (text : String) (config : Config) : (Config.parse text).result = .ok config ↔
    ∃ entries, Document entries text.toList ∧ Config.ofWritten entries = config := by
  refine (parseComplete_exact document_accepts text config).trans ?_
  constructor
  · intro found
    obtain ⟨gap,rest,entries,cut,⟨trivia,_⟩,⟨some,items⟩,made⟩ := found
    rw [List.append_nil] at trivia
    exact ⟨entries,⟨gap,rest,cut,trivia,some,rows_exact.mp items⟩,made⟩
  · intro found
    obtain ⟨entries,⟨gap,rest,cut,trivia,some,row⟩,made⟩ := found
    have opened : Stops isGap rest := (row_opens (padded_opens rfl) row some).2
    refine ⟨gap,rest,entries,cut,?_,⟨some,rows_exact.mpr row⟩,made⟩
    rw [List.append_nil]
    exact ⟨trivia,opened⟩

-- Parsing accepts exactly the documents, and gives what the written sections denote.
theorem parse_denotes (text : String) :
    ((∃ config, (Config.parse text).result = .ok config) ↔ ∃ sections, Document sections text.toList) ∧
    ∀ sections config, Document sections text.toList →
      ((Config.parse text).result = .ok config ↔ config.Denotes sections) := by
  constructor
  · constructor
    · intro found
      obtain ⟨config,parsed⟩ := found
      obtain ⟨sections,written,_⟩ := (parse_written text config).mp parsed
      exact ⟨sections,written⟩
    · intro found
      obtain ⟨sections,written⟩ := found
      exact ⟨_,(parse_written text _).mpr ⟨sections,written,rfl⟩⟩
  · intro sections config written
    have parsed := (parse_written text _).mpr ⟨sections,written,rfl⟩
    rw [Config.denotes_exact,parsed]
    constructor
    · intro same
      exact Except.ok.inj same
    · intro same
      exact congrArg Except.ok same

theorem repeated_section_denoted :
    Document [("a",[("x","1")]),("a",[("y","2")])] "[a]\nx=1\n;c\n[a]y=2".toList ∧
    ∃ config, (Config.parse "[a]\nx=1\n;c\n[a]y=2").result = .ok config ∧ config.headers = ["a"] ∧
      config.value? "a" "x" = none ∧ config.value? "a" "y" = some "2" := by
  have feed : ∀ c ∈ ['\n'], isFeed c = true := by simp [isFeed]
  have first : SectionText ("a",[("x","1")]) "[a]\nx=1\n".toList (";c\n".toList ++ "[a]y=2".toList) := by
    refine ⟨['\n'],"x=1\n".toList,rfl,by decide,feed,List.cons_ne_nil _ _,row_singleton ?_⟩
    exact ⟨['\n'],rfl,by decide,by decide,.inr ⟨_,rfl⟩,feed⟩
  have second : SectionText ("a",[("y","2")]) "[a]y=2".toList [] := by
    refine ⟨[],"y=2".toList,rfl,by decide,by simp,List.cons_ne_nil _ _,row_singleton ?_⟩
    exact ⟨[],rfl,by decide,by decide,.inl rfl,by simp⟩
  have between : Trivia ";c\n".toList "[a]y=2".toList := by
    refine ⟨[],";c\n".toList,[((';',['c']),())],rfl,by simp,row_singleton ?_⟩
    exact ⟨['\n'],rfl,rfl,by simp [isInLine],.inr ⟨_,rfl⟩,by simp [isBlank]⟩
  have nothing : ∀ after, Trivia [] after := fun after => ⟨[],[],[],rfl,by simp,.nil⟩
  have written : Document [("a",[("x","1")]),("a",[("y","2")])] "[a]\nx=1\n;c\n[a]y=2".toList := by
    refine ⟨[],_,rfl,nothing _,List.cons_ne_nil _ _,?_⟩
    have last : Padded ("a",[("y","2")]) "[a]y=2".toList [] := ⟨_,[],(List.append_nil _).symm,second,nothing []⟩
    exact .cons ⟨"[a]\nx=1\n".toList,";c\n".toList,rfl,first,between⟩ (row_singleton last)
  have denotes := Config.ofWritten_denotes [("a",[("x","1")]),("a",[("y","2")])]
  have parsed := ((parse_denotes "[a]\nx=1\n;c\n[a]y=2").2 _ _ written).mpr denotes
  exact ⟨written,_,parsed,by decide,denotes.values "a" "x",denotes.values "a" "y"⟩
end CommittedParsing.Ini
