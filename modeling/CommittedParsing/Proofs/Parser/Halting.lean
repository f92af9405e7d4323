import CommittedParsing.Proofs.Parser.Derived
import CommittedParsing.Proofs.Parser.Row

namespace CommittedParsing.Parser

open Cursor

variable {α β γ : Type}

abbrev FailureLanguage := List Char → Cause → List Char → Prop

def Halts (parser : Parser α) (halting : FailureLanguage) : Prop :=
  ∀ ⦃source cursor failed⦄, Reached source cursor → Fails parser cursor failed →
    ∃ read place, cursor.Reads read place ∧ failed.fault.location = place.location ∧
      halting read failed.fault.cause place.rest

-- The cause says of the text after the failure what is so: that there is none, or with what it begins.
inductive Tells : Cause → List Char → Prop where
  | endOfInput (expected : String) : Tells (.endOfInput expected) []
  | unexpected (expected : String) (c : Char) (rest : List Char) :
      Tells (.unexpected expected (Text.quotedChar c)) (c :: rest)
  | trailing (c : Char) (rest : List Char) : Tells (.trailing c) (c :: rest)

def absent (expected : String) : List Char → Cause
  | [] => .endOfInput expected
  | c :: _ => .unexpected expected (Text.quotedChar c)

abbrev Missing (test : Char → Bool) : FailureLanguage := fun read cause after =>
  read = [] ∧ Stops test after ∧ Tells cause after

abbrev Later (language : TextLanguage α) (halting : FailureLanguage) : FailureLanguage := fun read cause after =>
  ∃ value front back, read = front ++ back ∧ language value front (back ++ after) ∧ halting back cause after

-- A failure in a row of values, at a text before which the row could not have ended.
abbrev InRow (language : TextLanguage α) (refused : List Char → Prop) (halting : FailureLanguage) : FailureLanguage :=
  fun read cause after => ∃ values front back, read = front ++ back ∧ Row language values front (back ++ after) ∧
    ¬ refused (back ++ after) ∧ halting back cause after

abbrev Never : FailureLanguage := fun _ _ _ => False

abbrev Because (reason : Cause → List Char → Prop) : FailureLanguage := fun _ cause after => reason cause after

abbrev RoundText (language : TextLanguage α) (mark : TextLanguage β) : TextLanguage α := fun value read after =>
  ∃ front back, read = front ++ back ∧ (∃ between, mark between front (back ++ after)) ∧ language value back after

section Tells

variable {cause : Cause} {after : List Char}

theorem tells_end (tells : Tells cause after) : (∃ expected, cause = .endOfInput expected) ↔ after = [] := by
  cases tells with
  | endOfInput expected => exact ⟨fun _ => rfl,fun _ => ⟨expected,rfl⟩⟩
  | unexpected expected c rest => exact ⟨nofun,nofun⟩
  | trailing c rest => exact ⟨nofun,nofun⟩

theorem tells_kind (tells : Tells cause after) : (∃ expected found, cause = .unexpected expected found) ∨
    (∃ expected, cause = .endOfInput expected) ∨ ∃ found, cause = .trailing found := by
  cases tells with
  | endOfInput expected => exact .inr (.inl ⟨expected,rfl⟩)
  | unexpected expected c rest => exact .inl ⟨expected,_,rfl⟩
  | trailing c rest => exact .inr (.inr ⟨c,rfl⟩)

theorem tells_unrejected (tells : Tells cause after) (message : String) : cause ≠ .rejected message := by
  intro same
  subst same
  cases tells

end Tells

section Combined

variable {parser first : Parser α} {second : Parser β} {language : TextLanguage α} {later : TextLanguage β}
  {halting other : FailureLanguage} {refused : List Char → Prop}

theorem halts_mono (halts : Halts parser halting)
    (wider : ∀ {read cause after}, halting read cause after → other read cause after) : Halts parser other := by
  intro source cursor failed reached ran
  obtain ⟨read,place,passed,located,halted⟩ := halts reached ran
  exact ⟨read,place,passed,located,wider halted⟩

theorem halts_agrees {alike : Parser α} (agrees : Agrees parser alike) (halts : Halts alike halting) :
    Halts parser halting := by
  intro source cursor failed reached ran
  unfold Fails at ran
  rw [agrees] at ran
  exact halts reached ran

theorem halts_never (halts : Halts parser Never) {source : String} {cursor : Cursor}
    (reached : Reached source cursor) : ∃ value stop, Succeeds parser cursor value stop := by
  rcases answers parser cursor with found | ⟨failed,ran⟩
  · exact found
  · obtain ⟨_,_,_,_,impossible⟩ := halts reached ran
    exact impossible.elim

theorem satisfy_halts (test : Char → Bool) (expected : String) : Halts (satisfy test expected) (Missing test) := by
  intro source cursor failed reached ran
  rcases satisfy_fails.mp ran with ⟨missing,rfl⟩ | ⟨c,ahead,refused,rfl⟩
  · have nothing : cursor.rest = [] := List.head?_eq_none_iff.mp missing
    refine ⟨[],cursor,reads_refl cursor,rfl,rfl,?_⟩
    rw [nothing]
    exact ⟨stops_nil,.endOfInput expected⟩
  · obtain ⟨rest,found⟩ : ∃ rest, cursor.rest = c :: rest := List.head?_eq_some_iff.mp ahead
    refine ⟨[],cursor,reads_refl cursor,rfl,rfl,?_⟩
    rw [found]
    exact ⟨stops_cons.mpr refused,.unexpected expected c rest⟩

theorem eof_halts : Halts eof fun read cause after => read = [] ∧ Tells cause after := by
  intro source cursor failed reached ran
  obtain ⟨c,ahead,rfl⟩ := eof_fails.mp ran
  obtain ⟨rest,found⟩ : ∃ rest, cursor.rest = c :: rest := List.head?_eq_some_iff.mp ahead
  refine ⟨[],cursor,reads_refl cursor,rfl,rfl,?_⟩
  rw [found]
  exact .trailing c rest

theorem pure_halts (value : α) : Halts (Parser.pure value) Never :=
  fun _ _ _ _ ran => absurd ran pure_fails

theorem optional_halts (parser : Parser α) : Halts parser.optional Never :=
  fun _ _ _ _ ran => absurd ran optional_fails

theorem map_halts (f : α → β) (halts : Halts parser halting) : Halts (parser.map f) halting :=
  fun _ _ _ reached ran => halts reached (map_fails.mp ran)

theorem mapReporting_halts (f : α → β × List Event) (halts : Halts parser halting) :
    Halts (parser.mapReporting f) halting := fun _ _ _ reached ran => halts reached (mapReporting_fails.mp ran)

theorem recognize_halts (halts : Halts parser halting) : Halts parser.recognize halting :=
  fun _ _ _ reached ran => halts reached (recognize_fails.mp ran)

theorem tryMap_halts (convert : α → Except String β) (accepts : Accepts parser language) (halts : Halts parser halting) :
    Halts (parser.tryMap convert) fun read cause after => halting read cause after ∨
      read = [] ∧ ∃ inner message text rest, after = text ++ rest ∧ language inner text rest ∧
        convert inner = .error message ∧ cause = .rejected message := by
  intro source cursor failed reached ran
  rcases tryMap_fails.mp ran with missed | ⟨inner,middle,message,found,refused,rfl⟩
  · obtain ⟨read,place,passed,located,halted⟩ := halts reached missed
    exact ⟨read,place,passed,located,.inl halted⟩
  · obtain ⟨text,passed,spelled⟩ := (accepts reached).mp found
    exact ⟨[],cursor,reads_refl cursor,rfl,.inr ⟨rfl,inner,message,text,middle.rest,passed.2.1,spelled,refused,rfl⟩⟩

theorem pair_halts (accepts : Accepts first language) (halts : Halts first halting) (also : Halts second other) :
    Halts (first.pair second) fun read cause after => halting read cause after ∨ Later language other read cause after := by
  intro source cursor failed reached ran
  rcases pair_fails.mp ran with missed | ⟨value,middle,_,found,missed,rfl⟩
  · obtain ⟨read,place,passed,located,halted⟩ := halts reached missed
    exact ⟨read,place,passed,located,.inl halted⟩
  · obtain ⟨front,before,spelled⟩ := (accepts reached).mp found
    obtain ⟨back,place,passed,located,halted⟩ := also (reads_reached reached before) missed
    rw [passed.2.1] at spelled
    exact ⟨front ++ back,place,reads_trans before passed,located,.inr ⟨value,front,back,rfl,spelled,halted⟩⟩

theorem left_halts (accepts : Accepts first language) (halts : Halts first halting) (also : Halts second other) :
    Halts (first.left second) fun read cause after => halting read cause after ∨ Later language other read cause after :=
  map_halts _ (pair_halts accepts halts also)

theorem pair_because {reason : Cause → List Char → Prop} (accepts : Accepts first language)
    (halts : Halts first (Because reason)) (also : Halts second (Because reason)) :
    Halts (first.pair second) (Because reason) := by
  refine halts_mono (pair_halts accepts halts also) ?_
  intro read cause after halted
  rcases halted with missed | ⟨_,_,_,_,_,missed⟩
  · exact missed
  · exact missed

theorem pair_settled (accepts : Accepts first language) (halts : Halts first halting) (also : Halts second Never) :
    Halts (first.pair second) halting := by
  refine halts_mono (pair_halts accepts halts also) ?_
  intro read cause after halted
  rcases halted with missed | ⟨_,_,_,_,_,impossible⟩
  · exact missed
  · exact impossible.elim

theorem left_settled (accepts : Accepts first language) (halts : Halts first halting) (also : Halts second Never) :
    Halts (first.left second) halting := map_halts _ (pair_settled accepts halts also)

theorem right_halts (accepts : Accepts first language) (halts : Halts first halting) (also : Halts second other) :
    Halts (first.right second) fun read cause after => halting read cause after ∨ Later language other read cause after :=
  map_halts _ (pair_halts accepts halts also)

theorem between_halts {opening : Parser α} {content : Parser β} {closing : Parser γ} {last : FailureLanguage}
    (opens : Accepts opening language) (fills : Accepts content later) (opened : Halts opening halting)
    (filled : Halts content other) (closed : Halts closing last) :
    Halts (between opening content closing) fun read cause after => (halting read cause after ∨
      Later language other read cause after) ∨ Later (Then language later) last read cause after := by
  have parts := pair_halts opens opened filled
  exact halts_agrees (between_agrees opening content closing)
    (map_halts _ (pair_halts (pair_accepts opens fills) parts closed))

theorem orElse_halts {instead : Parser α} (refuses : Refuses parser refused) (halts : Halts parser halting)
    (otherwise : Halts instead other) : Halts (parser.orElse instead) fun read cause after =>
      ¬ refused (read ++ after) ∧ halting read cause after ∨ refused (read ++ after) ∧ other read cause after := by
  intro source cursor failed reached ran
  rcases orElse_fails.mp ran with ⟨missed,committed⟩ | ⟨declined,missed⟩
  · obtain ⟨read,place,passed,located,halted⟩ := halts reached missed
    refine ⟨read,place,passed,located,.inl ⟨?_,halted⟩⟩
    rw [← passed.2.1,← refuses reached]
    exact committed_not_declines missed committed
  · obtain ⟨read,place,passed,located,halted⟩ := otherwise reached missed
    refine ⟨read,place,passed,located,.inr ⟨?_,halted⟩⟩
    rw [← passed.2.1,← refuses reached]
    exact declined

end Combined

section Loops

variable {step : Cursor → α → Cursor → Prop} {parser item : Parser α} {separator : Parser β} {language : TextLanguage α}
  {mark : TextLanguage β} {halting other : FailureLanguage} {refused : List Char → Prop} {source : String}
  {start cursor stop : Cursor} {values : List α} {failed : Failure}

theorem chain_row (spelled : Spelled step language) (reached : Reached source cursor)
    (chain : Chain step cursor values stop) : ∃ read, cursor.Reads read stop ∧ Row language values read stop.rest := by
  induction chain with
  | nil => exact ⟨[],reads_refl _,.nil⟩
  | cons goes _ _ ih =>
      obtain ⟨read,passed,one⟩ := (spelled reached).mp goes
      obtain ⟨more,further,row⟩ := ih (reads_reached reached passed)
      rw [further.2.1] at one
      exact ⟨read ++ more,reads_trans passed further,.cons one row⟩

-- A row of texts that are not empty always makes progress, so a loop over it breaks with a failure only.
theorem repeatBroken_halts (accepts : Accepts parser language) (nonempty : Nonempty language)
    (refuses : Refuses parser refused) (halts : Halts parser halting) (reached : Reached source cursor)
    (broken : RepeatBroken parser start cursor failed) : ∃ read place, cursor.Reads read place ∧
      failed.fault.location = place.location ∧ ¬ refused (read ++ place.rest) ∧
      halting read failed.fault.cause place.rest := by
  rcases broken with ⟨missed,committed⟩ | ⟨⟨value,next,found,same⟩,_⟩
  · obtain ⟨read,place,passed,located,halted⟩ := halts reached missed
    refine ⟨read,place,passed,located,?_,halted⟩
    rw [← passed.2.1,← refuses reached]
    exact committed_not_declines missed committed
  · obtain ⟨read,passed,spelled⟩ := (accepts reached).mp found
    refine absurd ((reads_remaining reached passed).mpr ?_) same
    intro empty
    subst empty
    exact nonempty _ _ spelled

theorem many_halts (accepts : Accepts parser language) (nonempty : Nonempty language) (refuses : Refuses parser refused)
    (halts : Halts parser halting) : Halts parser.many (InRow language refused halting) := by
  intro source cursor failed reached ran
  obtain ⟨values,middle,chain,broken⟩ := many_fails.mp ran
  obtain ⟨front,before,row⟩ := chain_row accepts reached chain
  obtain ⟨back,place,passed,located,refusing,halted⟩ :=
    repeatBroken_halts accepts nonempty refuses halts (reads_reached reached before) broken
  rw [passed.2.1] at row
  exact ⟨front ++ back,place,reads_trans before passed,located,values,front,back,rfl,row,refusing,halted⟩

theorem many1_halts (accepts : Accepts parser language) (nonempty : Nonempty language) (refuses : Refuses parser refused)
    (halts : Halts parser halting) : Halts parser.many1 fun read cause after =>
      halting read cause after ∨ InRow language refused halting read cause after := by
  intro source cursor failed reached ran
  rcases many1_fails.mp ran with missed | ⟨value,next,found,values,middle,chain,broken⟩
  · obtain ⟨read,place,passed,located,halted⟩ := halts reached missed
    exact ⟨read,place,passed,located,.inl halted⟩
  · obtain ⟨first,taken,spelled⟩ := (accepts reached).mp found
    have beyond := reads_reached reached taken
    obtain ⟨front,before,row⟩ := chain_row accepts beyond chain
    obtain ⟨back,place,passed,located,refusing,halted⟩ :=
      repeatBroken_halts accepts nonempty refuses halts (reads_reached beyond before) broken
    have whole := reads_trans taken before
    rw [before.2.1] at spelled
    have values := Row.cons spelled row
    rw [passed.2.1] at values
    exact ⟨first ++ front ++ back,place,reads_trans whole passed,located,.inr ⟨_,_,back,rfl,values,refusing,halted⟩⟩

section Declining

-- A parser that fails only where it declines is one that a loop goes on with until it stops.
variable (declines : ∀ {read cause after}, halting read cause after → refused (read ++ after))

include declines

theorem many_settled (accepts : Accepts parser language) (nonempty : Nonempty language) (refuses : Refuses parser refused)
    (halts : Halts parser halting) : Halts parser.many Never := by
  refine halts_mono (many_halts accepts nonempty refuses halts) ?_
  intro read cause after halted
  obtain ⟨_,_,_,_,_,refusing,missed⟩ := halted
  exact refusing (declines missed)

theorem many1_settled (accepts : Accepts parser language) (nonempty : Nonempty language) (refuses : Refuses parser refused)
    (halts : Halts parser halting) : Halts parser.many1 halting := by
  refine halts_mono (many1_halts accepts nonempty refuses halts) ?_
  intro read cause after halted
  rcases halted with missed | ⟨_,_,_,_,_,refusing,missed⟩
  · exact missed
  · exact absurd (declines missed) refusing

end Declining

theorem separatedBy_halts (accepts : Accepts item language) (separates : Accepts separator mark) (nonempty : Nonempty mark)
    (refuses : Refuses separator refused) (halts : Halts item halting) (also : Halts separator other) :
    Halts (item.separatedBy separator) fun read cause after => halting read cause after ∨
      Later (Then language (Row (RoundText language mark))) (fun read cause after =>
        ¬ refused (read ++ after) ∧ other read cause after ∨ Later mark halting read cause after) read cause after := by
  intro source cursor failed reached ran
  rcases separatedBy_fails.mp ran with missed | ⟨value,next,found,values,middle,chain,broken⟩
  · obtain ⟨read,place,passed,located,halted⟩ := halts reached missed
    exact ⟨read,place,passed,located,.inl halted⟩
  · obtain ⟨first,taken,spelled⟩ := (accepts reached).mp found
    have beyond := reads_reached reached taken
    obtain ⟨front,before,row⟩ := chain_row (round_spelled accepts separates) beyond chain
    have here := reads_reached beyond before
    have whole := reads_trans taken before
    rw [before.2.1] at spelled
    rcases broken with ⟨missed,committed⟩ | ⟨between,after,_,marked,missed,rfl⟩ | ⟨⟨_,_,⟨between,after,marked,ended⟩,same⟩,_⟩
    · obtain ⟨back,place,passed,located,halted⟩ := also here missed
      rw [passed.2.1] at spelled row
      have refusing := committed_not_declines missed committed
      rw [refuses here,passed.2.1] at refusing
      exact ⟨_,place,reads_trans whole passed,located,.inr ⟨(value,values),_,back,rfl,⟨first,front,rfl,spelled,row⟩,
        .inl ⟨refusing,halted⟩⟩⟩
    · obtain ⟨gap,step,marks⟩ := (separates here).mp marked
      obtain ⟨back,place,passed,located,halted⟩ := halts (reads_reached here step) missed
      have onward := reads_trans step passed
      rw [onward.2.1] at spelled row
      rw [passed.2.1] at marks
      exact ⟨_,place,reads_trans whole onward,located,.inr ⟨(value,values),_,gap ++ back,rfl,
        ⟨first,front,rfl,spelled,row⟩,.inr ⟨between,gap,back,rfl,marks,halted⟩⟩⟩
    · obtain ⟨gap,step,marks⟩ := (separates here).mp marked
      obtain ⟨back,passed,_⟩ := (accepts (reads_reached here step)).mp ended
      refine absurd ((reads_remaining here (reads_trans step passed)).mpr ?_) same
      intro empty
      obtain ⟨rfl,_⟩ := List.append_eq_nil_iff.mp empty
      exact absurd marks (nonempty _ _)

end Loops

section Runs

variable {test : Char → Bool} {expected : String} {source : String} {cursor : Cursor} {read after : List Char}

theorem satisfy_absent (stops : Stops test cursor.rest) :
    Fails (satisfy test expected) cursor (.clean (absent expected cursor.rest) cursor.location) := by
  rw [satisfy_fails,peek?]
  cases ahead : cursor.rest with
  | nil => exact .inl ⟨rfl,rfl⟩
  | cons c rest => exact .inr ⟨c,rfl,stops_cons.mp (ahead ▸ stops),rfl⟩

theorem run1_absent (stops : Stops test cursor.rest) :
    Fails (satisfy test expected).many1 cursor (.clean (absent expected cursor.rest) cursor.location) :=
  many1_fails.mpr (.inl (satisfy_absent stops))

theorem run1_reads (reached : Reached source cursor) (ahead : cursor.rest = read ++ after) (run : Run test read)
    (stops : Stops test after) :
    ∃ stop, cursor.Reads read stop ∧ Succeeds (satisfy test expected).many1 cursor read stop := by
  obtain ⟨stop,passed,_,ran⟩ := accepts_front run1_accepts reached ahead ⟨rfl,run,stops⟩
  exact ⟨stop,passed,ran⟩

theorem missing_declines {read after : List Char} {cause : Cause} (missing : Missing test read cause after) :
    Stops test (read ++ after) := by
  obtain ⟨rfl,stops,_⟩ := missing
  exact stops

theorem run_halts : Halts (satisfy test expected).many Never :=
  many_settled missing_declines (satisfy_accepts _ _) satisfy_nonempty (satisfy_refuses _ _) (satisfy_halts _ _)

theorem run1_halts : Halts (satisfy test expected).many1 (Missing test) :=
  many1_settled missing_declines (satisfy_accepts _ _) satisfy_nonempty (satisfy_refuses _ _) (satisfy_halts _ _)

end Runs

end CommittedParsing.Parser
