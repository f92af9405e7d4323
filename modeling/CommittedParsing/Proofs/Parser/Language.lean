import CommittedParsing.Parser.Entry
import CommittedParsing.Proofs.Parser.Derived

namespace CommittedParsing.Parser

open Cursor

variable {α β γ : Type}

-- A value, the text that is read for it, and the text after, which decides how far a greedy reader goes.
abbrev TextLanguage (α : Type) := α → List Char → List Char → Prop

def Spelled (step : Cursor → α → Cursor → Prop) (language : TextLanguage α) : Prop :=
  ∀ ⦃source cursor value stop⦄, Reached source cursor →
    (step cursor value stop ↔ ∃ read, cursor.Reads read stop ∧ language value read stop.rest)

def Accepts (parser : Parser α) (language : TextLanguage α) : Prop := Spelled (Succeeds parser) language

-- The parser declines exactly before the refused texts.
def Refuses (parser : Parser α) (refused : List Char → Prop) : Prop :=
  ∀ ⦃source cursor⦄, Reached source cursor → (Declines parser cursor ↔ refused cursor.rest)

def Stops (test : Char → Bool) (after : List Char) : Prop := ∀ c, after.head? = some c → test c = false

def Run (test : Char → Bool) (text : List Char) : Prop := text ≠ [] ∧ ∀ c ∈ text, test c = true

instance (test : Char → Bool) (text : List Char) : Decidable (Run test text) :=
  decidable_of_iff (text ≠ [] ∧ text.all test = true) (and_congr_right fun _ => List.all_eq_true)

-- Items one after the other, none of them empty, up to a text before which there are no more.
inductive Items (language : TextLanguage α) (refused : List Char → Prop) : TextLanguage (List α) where
  | nil {after : List Char} : refused after → Items language refused [] [] after
  | cons {value : α} {values : List α} {read more after : List Char} : language value read (more ++ after) →
      read ≠ [] → Items language refused values more after → Items language refused (value :: values) (read ++ more) after

abbrev Made (f : α → β) (language : TextLanguage α) : TextLanguage β := fun value read after =>
  ∃ inner, language inner read after ∧ f inner = value

abbrev Then (language : TextLanguage α) (later : TextLanguage β) : TextLanguage (α × β) := fun values read after =>
  ∃ front back, read = front ++ back ∧ language values.1 front (back ++ after) ∧ later values.2 back after

abbrev ThenSome (language : TextLanguage α) (later : TextLanguage β) : TextLanguage α := fun value read after =>
  ∃ front back, read = front ++ back ∧ language value front (back ++ after) ∧ ∃ other, later other back after

theorem accepts_congr {parser : Parser α} {language other : TextLanguage α} (accepts : Accepts parser language)
    (same : ∀ value read after, language value read after ↔ other value read after) : Accepts parser other := by
  intro source cursor value stop reached
  rw [accepts reached]
  simp only [same]

theorem accepts_front {parser : Parser α} {language : TextLanguage α} (accepts : Accepts parser language)
    {source : String} {cursor : Cursor} (reached : Reached source cursor) {value : α} {read after : List Char}
    (ahead : cursor.rest = read ++ after) (spelled : language value read after) :
    ∃ stop, cursor.Reads read stop ∧ stop.rest = after ∧ Succeeds parser cursor value stop := by
  obtain ⟨stop,passed,rest⟩ := reads_front ahead
  exact ⟨stop,passed,rest,(accepts reached).mpr ⟨read,passed,rest ▸ spelled⟩⟩

section Stops

variable {test : Char → Bool} {c : Char} {text : List Char}

theorem stops_nil : Stops test [] := by simp [Stops]

theorem stops_cons : Stops test (c :: text) ↔ test c = false := by simp [Stops]

theorem stops_append_nonempty {front : List Char} (nonempty : front ≠ []) :
    Stops test (front ++ text) ↔ Stops test front := by
  cases front with
  | nil => exact absurd rfl nonempty
  | cons first rest => simp [Stops]

theorem stops_append {front : List Char} (before : Stops test front) (stops : Stops test text) :
    Stops test (front ++ text) := by
  cases front with
  | nil => exact stops
  | cons first rest => exact stops_cons.mpr (stops_cons.mp before)

theorem stops_or {other : Char → Bool} :
    Stops (fun c => test c || other c) text ↔ Stops test text ∧ Stops other text := by
  cases text with
  | nil => simp [stops_nil]
  | cons first rest => simp [stops_cons]

theorem run_split (test : Char → Bool) (text : List Char) :
    ∃ front back, text = front ++ back ∧ (∀ c ∈ front, test c = true) ∧ Stops test back := by
  refine ⟨text.takeWhile test,text.dropWhile test,List.takeWhile_append_dropWhile.symm,?_,?_⟩
  · exact List.all_eq_true.mp List.all_takeWhile
  · intro c first
    have refused := List.head?_dropWhile_not test text
    rw [first] at refused
    exact refused

theorem run_takeWhile {front back : List Char} (all : ∀ c ∈ front, test c = true) (stops : Stops test back) :
    (front ++ back).takeWhile test = front := by
  rw [List.takeWhile_append_of_pos all]
  cases back with
  | nil => exact List.append_nil _
  | cons c rest => rw [List.takeWhile_cons_of_neg (by simp [stops_cons.mp stops]),List.append_nil]

theorem stops_mono {wider : Char → Bool} (narrower : ∀ c, test c = true → wider c = true)
    (stops : Stops wider text) : Stops test text := by
  intro c first
  cases passes : test c with
  | false => rfl
  | true => exact absurd (narrower c passes) (by simp [stops c first])

end Stops

section Leaves

theorem satisfy_accepts (test : Char → Bool) (expected : String) :
    Accepts (satisfy test expected) fun c read _ => read = [c] ∧ test c = true := by
  intro source cursor c stop reached
  rw [satisfy_succeeds]
  constructor
  · intro accepted
    obtain ⟨passed,accepted⟩ := accepted
    exact ⟨[c],passed,rfl,accepted⟩
  · intro spelled
    obtain ⟨_,passed,rfl,accepted⟩ := spelled
    exact ⟨passed,accepted⟩

theorem satisfy_refuses (test : Char → Bool) (expected : String) : Refuses (satisfy test expected) (Stops test) := by
  intro source cursor reached
  constructor
  · intro found c ahead
    obtain ⟨failed,ran,_⟩ := found
    rcases satisfy_fails.mp ran with ⟨atEnd,_⟩ | ⟨first,seen,refused,_⟩
    · rw [peek?,ahead] at atEnd
      cases atEnd
    · rw [peek?,ahead] at seen
      cases seen
      exact refused
  · intro stops
    cases ahead : cursor.peek? with
    | none => exact ⟨_,satisfy_fails.mpr (.inl ⟨ahead,rfl⟩),rfl⟩
    | some c => exact ⟨_,satisfy_fails.mpr (.inr ⟨c,ahead,stops c ahead,rfl⟩),rfl⟩

theorem satisfy_misses (test : Char → Bool) (expected : String) {source : String} {cursor : Cursor}
    (reached : Reached source cursor) : (∃ failed, Fails (satisfy test expected) cursor failed) ↔ Stops test cursor.rest := by
  rw [← satisfy_refuses test expected reached]
  constructor
  · intro found
    obtain ⟨failed,ran⟩ := found
    refine ⟨failed,ran,?_⟩
    rcases satisfy_fails.mp ran with ⟨_,rfl⟩ | ⟨_,_,_,rfl⟩
    · rfl
    · rfl
  · intro declined
    obtain ⟨failed,ran,_⟩ := declined
    exact ⟨failed,ran⟩

theorem pure_accepts (value : α) : Accepts (Parser.pure value) fun result read _ => read = [] ∧ value = result := by
  intro source cursor result stop reached
  rw [pure_succeeds]
  constructor
  · intro accepted
    obtain ⟨made,rfl⟩ := accepted
    exact ⟨[],reads_refl cursor,rfl,made⟩
  · intro spelled
    obtain ⟨_,passed,rfl,made⟩ := spelled
    exact ⟨made,(reads_nil.mp passed).symm⟩

end Leaves

section Combined

variable {parser first : Parser α} {second : Parser β} {language : TextLanguage α} {later : TextLanguage β}
  {refused : List Char → Prop}

theorem map_accepts (f : α → β) (accepts : Accepts parser language) :
    Accepts (parser.map f) (Made f language) := by
  intro source cursor value stop reached
  rw [map_succeeds]
  constructor
  · intro accepted
    obtain ⟨inner,ran,made⟩ := accepted
    obtain ⟨read,passed,spelled⟩ := (accepts reached).mp ran
    exact ⟨read,passed,inner,spelled,made⟩
  · intro spelled
    obtain ⟨read,passed,inner,spelled,made⟩ := spelled
    exact ⟨inner,(accepts reached).mpr ⟨read,passed,spelled⟩,made⟩

theorem mapReporting_accepts (f : α → β × List Event) (accepts : Accepts parser language) :
    Accepts (parser.mapReporting f) (Made (fun inner => (f inner).1) language) := by
  intro source cursor value stop reached
  rw [mapReporting_succeeds]
  exact (map_succeeds (f := fun inner => (f inner).1)).symm.trans (map_accepts _ accepts reached)

theorem tryMap_accepts (convert : α → Except String β) (accepts : Accepts parser language) :
    Accepts (parser.tryMap convert) fun value read after =>
      ∃ inner, language inner read after ∧ convert inner = .ok value := by
  intro source cursor value stop reached
  rw [tryMap_succeeds]
  constructor
  · intro accepted
    obtain ⟨inner,ran,made⟩ := accepted
    obtain ⟨read,passed,spelled⟩ := (accepts reached).mp ran
    exact ⟨read,passed,inner,spelled,made⟩
  · intro spelled
    obtain ⟨read,passed,inner,spelled,made⟩ := spelled
    exact ⟨inner,(accepts reached).mpr ⟨read,passed,spelled⟩,made⟩

theorem spelled_then {step : Cursor → α → Cursor → Prop} {next : Cursor → β → Cursor → Prop}
    (before : Spelled step language) (after : Spelled next later) {source : String} {cursor stop : Cursor} {a : α} {b : β}
    (reached : Reached source cursor) :
    (∃ middle, step cursor a middle ∧ next middle b stop) ↔ ∃ read, cursor.Reads read stop ∧
      ∃ front back, read = front ++ back ∧ language a front (back ++ stop.rest) ∧ later b back stop.rest := by
  constructor
  · intro found
    obtain ⟨middle,one,two⟩ := found
    obtain ⟨front,passed,spelled⟩ := (before reached).mp one
    obtain ⟨back,further,continued⟩ := (after (reads_reached reached passed)).mp two
    rw [further.2.1] at spelled
    exact ⟨_,reads_trans passed further,front,back,rfl,spelled,continued⟩
  · intro found
    obtain ⟨_,passed,front,back,rfl,spelled,continued⟩ := found
    obtain ⟨middle,one,two⟩ := reads_cut passed
    rw [← two.2.1] at spelled
    exact ⟨middle,(before reached).mpr ⟨front,one,spelled⟩,(after (reads_reached reached one)).mpr ⟨back,two,continued⟩⟩

theorem pair_accepts (before : Accepts first language) (after : Accepts second later) :
    Accepts (first.pair second) (Then language later) := by
  intro source cursor values stop reached
  rw [pair_succeeds]
  exact spelled_then before after reached

theorem left_accepts (before : Accepts first language) (after : Accepts second later) :
    Accepts (first.left second) (ThenSome language later) := by
  refine accepts_congr (map_accepts Prod.fst (pair_accepts before after)) fun value read rest => ?_
  constructor
  · intro accepted
    obtain ⟨values,⟨front,back,cut,spelled,continued⟩,rfl⟩ := accepted
    exact ⟨front,back,cut,spelled,values.2,continued⟩
  · intro spelled
    obtain ⟨front,back,cut,spelled,other,continued⟩ := spelled
    exact ⟨(value,other),⟨front,back,cut,spelled,continued⟩,rfl⟩

theorem right_accepts (before : Accepts first language) (after : Accepts second later) :
    Accepts (first.right second) fun value read rest =>
      ∃ front back, read = front ++ back ∧ (∃ other, language other front (back ++ rest)) ∧ later value back rest := by
  refine accepts_congr (map_accepts Prod.snd (pair_accepts before after)) fun value read rest => ?_
  constructor
  · intro accepted
    obtain ⟨values,⟨front,back,cut,spelled,continued⟩,rfl⟩ := accepted
    exact ⟨front,back,cut,⟨values.1,spelled⟩,continued⟩
  · intro spelled
    obtain ⟨front,back,cut,⟨other,spelled⟩,continued⟩ := spelled
    exact ⟨(other,value),⟨front,back,cut,spelled,continued⟩,rfl⟩

theorem between_accepts {opening : Parser α} {content : Parser β} {closing : Parser γ} {last : TextLanguage γ}
    (opens : Accepts opening language) (fills : Accepts content later) (closes : Accepts closing last) :
    Accepts (between opening content closing) fun value read rest => ∃ front inner back, read = front ++ inner ++ back ∧
      (∃ mark, language mark front (inner ++ back ++ rest)) ∧ later value inner (back ++ rest) ∧
      ∃ mark, last mark back rest := by
  intro source cursor value stop reached
  unfold Succeeds
  rw [between_sequence]
  refine (left_accepts (right_accepts opens fills) closes reached).trans ?_
  refine exists_congr fun read => and_congr_right fun _ => ?_
  constructor
  · intro accepted
    obtain ⟨_,back,rfl,⟨front,inner,rfl,opened,filled⟩,closed⟩ := accepted
    exact ⟨front,inner,back,rfl,by simpa using opened,filled,closed⟩
  · intro spelled
    obtain ⟨front,inner,back,rfl,opened,filled,closed⟩ := spelled
    exact ⟨front ++ inner,back,rfl,⟨front,inner,rfl,by simpa using opened,filled⟩,closed⟩

theorem orElse_accepts {other : Parser α} {instead : TextLanguage α} (accepts : Accepts parser language)
    (refuses : Refuses parser refused) (otherwise : Accepts other instead) :
    Accepts (parser.orElse other) fun value read after =>
      language value read after ∨ refused (read ++ after) ∧ instead value read after := by
  intro source cursor value stop reached
  rw [orElse_succeeds,accepts reached,refuses reached,otherwise reached]
  constructor
  · intro accepted
    rcases accepted with ⟨read,passed,spelled⟩ | ⟨declined,read,passed,spelled⟩
    · exact ⟨read,passed,.inl spelled⟩
    · exact ⟨read,passed,.inr ⟨passed.2.1 ▸ declined,spelled⟩⟩
  · intro spelled
    obtain ⟨read,passed,spelled | ⟨declined,spelled⟩⟩ := spelled
    · exact .inl ⟨read,passed,spelled⟩
    · exact .inr ⟨passed.2.1 ▸ declined,read,passed,spelled⟩

theorem optional_accepts (accepts : Accepts parser language)
    (misses : ∀ ⦃source cursor⦄, Reached source cursor → ((∃ failed, Fails parser cursor failed) ↔ refused cursor.rest)) :
    Accepts parser.optional fun value read after =>
      (∃ inner, language inner read after ∧ some inner = value) ∨ refused after ∧ read = [] ∧ none = value := by
  intro source cursor value stop reached
  rw [optional_succeeds,misses reached]
  constructor
  · intro accepted
    rcases accepted with ⟨inner,ran,made⟩ | ⟨missed,made,rfl⟩
    · obtain ⟨read,passed,spelled⟩ := (accepts reached).mp ran
      exact ⟨read,passed,.inl ⟨inner,spelled,made⟩⟩
    · exact ⟨[],reads_refl cursor,.inr ⟨missed,rfl,made⟩⟩
  · intro spelled
    obtain ⟨read,passed,⟨inner,spelled,made⟩ | ⟨missed,rfl,made⟩⟩ := spelled
    · exact .inl ⟨inner,(accepts reached).mpr ⟨read,passed,spelled⟩,made⟩
    · obtain rfl := reads_nil.mp passed
      exact .inr ⟨missed,made,rfl⟩

theorem recognize_accepts (accepts : Accepts parser language) :
    Accepts parser.recognize fun text read after => (∃ value, language value read after) ∧ String.ofList read = text := by
  intro source cursor text stop reached
  rw [recognize_succeeds]
  constructor
  · intro accepted
    obtain ⟨⟨value,ran⟩,made⟩ := accepted
    obtain ⟨read,passed,spelled⟩ := (accepts reached).mp ran
    exact ⟨read,passed,⟨value,spelled⟩,(reads_textUpTo passed).symm.trans made⟩
  · intro spelled
    obtain ⟨read,passed,⟨value,spelled⟩,made⟩ := spelled
    exact ⟨⟨value,(accepts reached).mpr ⟨read,passed,spelled⟩⟩,(reads_textUpTo passed).trans made⟩

end Combined

section Refusing

variable {parser first : Parser α} {second : Parser β} {language : TextLanguage α} {refused : List Char → Prop}
  {source : String} {cursor stop : Cursor} {value : α}

def Nonempty (language : TextLanguage α) : Prop := ∀ value after, ¬ language value [] after

theorem made_nonempty (f : α → β) (nonempty : Nonempty language) : Nonempty (Made f language) := by
  intro value after found
  obtain ⟨inner,spelled,_⟩ := found
  exact nonempty inner after spelled

theorem then_nonempty {later : TextLanguage β} (nonempty : Nonempty language) : Nonempty (Then language later) := by
  intro values after found
  obtain ⟨front,back,empty,spelled,_⟩ := found
  obtain ⟨rfl,_⟩ := List.append_eq_nil_iff.mp empty.symm
  exact nonempty _ _ spelled

theorem thenSome_nonempty {later : TextLanguage β} (nonempty : Nonempty language) : Nonempty (ThenSome language later) := by
  intro value after found
  obtain ⟨front,back,cut,spelled,other,continued⟩ := found
  exact then_nonempty nonempty (value,other) after ⟨front,back,cut,spelled,continued⟩

theorem accepts_further (accepts : Accepts parser language) (nonempty : Nonempty language)
    (reached : Reached source cursor) (ran : Succeeds parser cursor value stop) : cursor.position < stop.position := by
  obtain ⟨read,passed,spelled⟩ := (accepts reached).mp ran
  refine (reads_further passed).mpr ?_
  intro same
  subst same
  exact nonempty _ _ spelled

theorem map_refuses (f : α → β) (refuses : Refuses parser refused) : Refuses (parser.map f) refused := by
  intro source cursor reached
  simp only [Declines,map_fails]
  exact refuses reached

theorem mapReporting_refuses (f : α → β × List Event) (refuses : Refuses parser refused) :
    Refuses (parser.mapReporting f) refused := by
  intro source cursor reached
  simp only [Declines,mapReporting_fails]
  exact refuses reached

theorem recognize_refuses (refuses : Refuses parser refused) : Refuses parser.recognize refused := by
  intro source cursor reached
  simp only [Declines,recognize_fails]
  exact refuses reached

-- A parser that always reads something is committed once it has a value, so that a check declines nothing more.
theorem tryMap_refuses (convert : α → Except String β) (accepts : Accepts parser language)
    (nonempty : Nonempty language) (refuses : Refuses parser refused) : Refuses (parser.tryMap convert) refused := by
  intro source cursor reached
  rw [← refuses reached]
  constructor
  · intro declined
    obtain ⟨failed,ran,unread⟩ := declined
    rcases tryMap_fails.mp ran with inner | ⟨_,_,_,inner,_,rfl⟩
    · exact ⟨failed,inner,unread⟩
    · simp [accepts_further accepts nonempty reached inner] at unread
  · intro declined
    obtain ⟨failed,ran,unread⟩ := declined
    exact ⟨failed,tryMap_fails.mpr (.inl ran),unread⟩

theorem pair_refuses (accepts : Accepts first language) (nonempty : Nonempty language)
    (refuses : Refuses first refused) : Refuses (first.pair second) refused := by
  intro source cursor reached
  rw [← refuses reached]
  constructor
  · intro declined
    obtain ⟨failed,ran,unread⟩ := declined
    rcases pair_fails.mp ran with one | ⟨_,_,_,one,_,rfl⟩
    · exact ⟨failed,one,unread⟩
    · simp [accepts_further accepts nonempty reached one] at unread
  · intro declined
    obtain ⟨failed,ran,unread⟩ := declined
    exact ⟨failed,pair_fails.mpr (.inl ran),unread⟩

theorem left_refuses (accepts : Accepts first language) (nonempty : Nonempty language)
    (refuses : Refuses first refused) : Refuses (first.left second) refused :=
  map_refuses _ (pair_refuses accepts nonempty refuses)

theorem right_refuses (accepts : Accepts first language) (nonempty : Nonempty language)
    (refuses : Refuses first refused) : Refuses (first.right second) refused :=
  map_refuses _ (pair_refuses accepts nonempty refuses)

theorem between_refuses {opening : Parser α} {content : Parser β} {closing : Parser γ} {later : TextLanguage β}
    (opens : Accepts opening language) (nonempty : Nonempty language) (fills : Accepts content later)
    (refuses : Refuses opening refused) : Refuses (between opening content closing) refused := by
  intro source cursor reached
  rw [← refuses reached]
  constructor
  · intro declined
    obtain ⟨failed,ran,unread⟩ := declined
    rcases between_fails.mp ran with one | ⟨_,opened,_,one,_,rfl⟩ | ⟨_,opened,_,filled,_,one,two,_,rfl⟩
    · exact ⟨failed,one,unread⟩
    · simp [accepts_further opens nonempty reached one] at unread
    · have further := accepts_further opens nonempty reached one
      obtain ⟨_,passed,_⟩ := (opens reached).mp one
      obtain ⟨_,onward,_⟩ := (fills (reads_reached reached passed)).mp two
      have advanced : cursor.position < filled.position := by
        rw [onward.2.2]
        omega
      simp [advanced] at unread
  · intro declined
    obtain ⟨failed,ran,unread⟩ := declined
    exact ⟨failed,between_fails.mpr (.inl ran),unread⟩

end Refusing

section Loops

variable {step : Cursor → α → Cursor → Prop} {parser item : Parser α} {separator : Parser β} {language : TextLanguage α}
  {mark : TextLanguage β} {refused : List Char → Prop}

-- A chain up to a cursor where the parser `last` declines reads a row of items.
theorem chain_items {last : Parser β} (spelled : Spelled step language) (refuses : Refuses last refused)
    {source : String} {cursor stop : Cursor} {values : List α} (reached : Reached source cursor) :
    Chain step cursor values stop ∧ Declines last stop ↔
      ∃ read, cursor.Reads read stop ∧ Items language refused values read stop.rest := by
  constructor
  · intro found
    obtain ⟨chain,declined⟩ := found
    induction chain with
    | nil => exact ⟨[],reads_refl _,.nil ((refuses reached).mp declined)⟩
    | cons goes less _ ih =>
        obtain ⟨read,passed,one⟩ := (spelled reached).mp goes
        obtain ⟨more,further,items⟩ := ih (reads_reached reached passed) declined
        rw [further.2.1] at one
        exact ⟨_,reads_trans passed further,.cons one ((reads_remaining reached passed).mp less) items⟩
  · intro found
    obtain ⟨read,passed,items⟩ := found
    generalize rest : stop.rest = after at items
    induction items generalizing cursor with
    | nil refusing =>
        obtain rfl := reads_nil.mp passed
        exact ⟨.nil,(refuses reached).mpr (rest ▸ refusing)⟩
    | cons one nonempty _ ih =>
        obtain ⟨next,first,others⟩ := reads_cut passed
        have less := (reads_remaining reached first).mpr nonempty
        obtain ⟨chain,declined⟩ := ih (reads_reached reached first) others rest
        rw [← rest,← others.2.1] at one
        exact ⟨.cons ((spelled reached).mpr ⟨_,first,one⟩) less chain,declined⟩

theorem many_accepts (accepts : Accepts parser language) (refuses : Refuses parser refused) :
    Accepts parser.many (Items language refused) := by
  intro source cursor values stop reached
  rw [many_succeeds]
  exact chain_items accepts refuses reached

theorem many1_accepts (accepts : Accepts parser language) (nonempty : Nonempty language) (refuses : Refuses parser refused) :
    Accepts parser.many1 fun values read after => values ≠ [] ∧ Items language refused values read after := by
  intro source cursor values stop reached
  have rows : Spelled (fun cursor others stop => Chain (Succeeds parser) cursor others stop ∧ Declines parser stop)
      (Items language refused) := fun _ _ _ _ reached => chain_items accepts refuses reached
  rw [many1_succeeds]
  constructor
  · intro accepted
    obtain ⟨value,next,others,one,chain,declined,rfl⟩ := accepted
    obtain ⟨_,passed,front,back,rfl,spelled,items⟩ := (spelled_then accepts rows reached).mp ⟨next,one,chain,declined⟩
    refine ⟨_,passed,List.cons_ne_nil _ _,.cons spelled ?_ items⟩
    intro same
    subst same
    exact nonempty _ _ spelled
  · intro spelled
    obtain ⟨_,passed,some,items⟩ := spelled
    cases items with
    | nil => exact absurd rfl some
    | cons spelled _ items =>
        obtain ⟨next,one,chain,declined⟩ := (spelled_then accepts rows reached).mpr ⟨_,passed,_,_,rfl,spelled,items⟩
        exact ⟨_,next,_,one,chain,declined,rfl⟩

theorem chain_reads (spelled : Spelled step language) {source : String} {cursor stop : Cursor} {values : List α}
    (reached : Reached source cursor) (chain : Chain step cursor values stop) : ∃ read, cursor.Reads read stop := by
  induction chain with
  | nil => exact ahead_refl _
  | cons goes _ _ ih =>
      obtain ⟨read,passed,_⟩ := (spelled reached).mp goes
      exact ahead_trans ⟨read,passed⟩ (ih (reads_reached reached passed))

theorem many1_refuses (accepts : Accepts parser language) (nonempty : Nonempty language)
    (refuses : Refuses parser refused) : Refuses parser.many1 refused := by
  intro source cursor reached
  rw [← refuses reached]
  constructor
  · intro declined
    obtain ⟨failed,ran,unread⟩ := declined
    rcases many1_fails.mp ran with one | ⟨value,next,one,values,last,chain,broken⟩
    · exact ⟨failed,one,unread⟩
    · have further := accepts_further accepts nonempty reached one
      obtain ⟨_,passed,_⟩ := (accepts reached).mp one
      obtain ⟨_,onward⟩ := chain_reads accepts (reads_reached reached passed) chain
      have advanced : cursor.position < last.position := by
        rw [onward.2.2]
        omega
      rcases broken with ⟨_,committed⟩ | ⟨_,rfl⟩
      · rw [committed] at unread
        cases unread
      · simp [stuck,advanced] at unread
  · intro declined
    obtain ⟨failed,ran,unread⟩ := declined
    exact ⟨failed,many1_fails.mpr (.inl ran),unread⟩

theorem round_spelled (accepts : Accepts item language) (separates : Accepts separator mark) :
    Spelled (Round item separator) fun value read after => ∃ front back, read = front ++ back ∧
      (∃ between, mark between front (back ++ after)) ∧ language value back after := by
  intro source cursor value stop reached
  rw [← right_accepts separates accepts reached,right_succeeds]
  constructor
  · intro found
    obtain ⟨between,middle,one,two⟩ := found
    exact ⟨middle,between,one,two⟩
  · intro found
    obtain ⟨middle,between,one,two⟩ := found
    exact ⟨between,middle,one,two⟩

inductive Separated (language : TextLanguage α) (mark : TextLanguage β) (refused : List Char → Prop) : TextLanguage (List α) where
  | one {value : α} {read after : List Char} : language value read after → refused after →
      Separated language mark refused [value] read after
  | more {value : α} {values : List α} {between : β} {read gap back after : List Char} :
      language value read (gap ++ (back ++ after)) → mark between gap (back ++ after) →
      Separated language mark refused values back after →
      Separated language mark refused (value :: values) (read ++ (gap ++ back)) after

theorem rounds_separated {value : α} {values : List α} {read more after : List Char}
    (spelled : language value read (more ++ after))
    (rounds : Items (fun value read after => ∃ front back, read = front ++ back ∧
      (∃ between, mark between front (back ++ after)) ∧ language value back after) refused values more after) :
    Separated language mark refused (value :: values) (read ++ more) after := by
  induction rounds generalizing value read with
  | nil refusing =>
      rw [List.append_nil]
      exact .one spelled refusing
  | @cons next others _ rest after round _ _ ih =>
      obtain ⟨gap,back,rfl,⟨between,marked⟩,item⟩ := round
      rw [List.append_assoc,List.append_assoc] at spelled
      rw [List.append_assoc gap back rest]
      have marks : mark between gap (back ++ rest ++ after) := by simpa using marked
      exact .more (by simpa using spelled) marks (ih item)

theorem separated_rounds (nonempty : Nonempty mark) {values : List α} {read after : List Char}
    (separated : Separated language mark refused values read after) :
    ∃ value others front back, values = value :: others ∧ read = front ++ back ∧
      language value front (back ++ after) ∧ Items (fun value read after => ∃ front back, read = front ++ back ∧
        (∃ between, mark between front (back ++ after)) ∧ language value back after) refused others back after := by
  induction separated with
  | @one value read after spelled refusing => exact ⟨value,[],read,[],rfl,by simp,spelled,.nil refusing⟩
  | @more value values between read gap back after spelled marked _ ih =>
      obtain ⟨second,others,front,rest,rfl,rfl,item,rounds⟩ := ih
      refine ⟨value,second :: others,read,gap ++ (front ++ rest),rfl,rfl,by simpa using spelled,?_⟩
      rw [← List.append_assoc]
      refine .cons ⟨gap,front,rfl,⟨between,by simpa using marked⟩,item⟩ ?_ rounds
      intro empty
      obtain ⟨rfl,_⟩ := List.append_eq_nil_iff.mp empty
      exact nonempty _ _ marked

theorem separatedBy_accepts (accepts : Accepts item language) (separates : Accepts separator mark)
    (nonempty : Nonempty mark) (refuses : Refuses separator refused) :
    Accepts (item.separatedBy separator) (Separated language mark refused) := by
  intro source cursor values stop reached
  have rows : Spelled (fun cursor others stop => Chain (Round item separator) cursor others stop ∧ Declines separator stop)
      _ := fun _ _ _ _ reached => chain_items (round_spelled accepts separates) refuses reached
  rw [separatedBy_succeeds]
  constructor
  · intro accepted
    obtain ⟨value,next,others,one,chain,declined,rfl⟩ := accepted
    obtain ⟨_,passed,front,back,rfl,spelled,rounds⟩ := (spelled_then accepts rows reached).mp ⟨next,one,chain,declined⟩
    exact ⟨_,passed,rounds_separated spelled rounds⟩
  · intro spelled
    obtain ⟨_,passed,separated⟩ := spelled
    obtain ⟨value,others,front,back,rfl,rfl,spelled,rounds⟩ := separated_rounds nonempty separated
    obtain ⟨next,one,chain,declined⟩ := (spelled_then accepts rows reached).mpr ⟨_,passed,front,back,rfl,spelled,rounds⟩
    exact ⟨value,next,others,one,chain,declined,rfl⟩

end Loops

section Runs

variable {test : Char → Bool} {expected : String} {values read after : List Char}

theorem items_run : Items (fun c read _ => read = [c] ∧ test c = true) (Stops test) values read after ↔
    values = read ∧ (∀ c ∈ read, test c = true) ∧ Stops test after := by
  constructor
  · intro items
    induction items with
    | nil stops => exact ⟨rfl,by simp,stops⟩
    | cons one _ _ ih =>
        obtain ⟨rfl,passes⟩ := one
        obtain ⟨rfl,all,stops⟩ := ih
        exact ⟨rfl,by simpa using ⟨passes,all⟩,stops⟩
  · intro found
    obtain ⟨rfl,all,stops⟩ := found
    induction values with
    | nil => exact .nil stops
    | cons c rest ih =>
        obtain ⟨passes,others⟩ := List.forall_mem_cons.mp all
        have single : [c] = [c] ∧ test c = true := ⟨rfl,passes⟩
        exact .cons single (List.cons_ne_nil _ _) (ih others)

theorem satisfy_nonempty : Nonempty (fun c read _ => read = [c] ∧ test c = true) := by
  intro c after found
  obtain ⟨empty,_⟩ := found
  cases empty

theorem run_accepts : Accepts (satisfy test expected).many fun values read after =>
    values = read ∧ (∀ c ∈ read, test c = true) ∧ Stops test after :=
  accepts_congr (many_accepts (satisfy_accepts _ _) (satisfy_refuses _ _)) fun _ _ _ => items_run

theorem run1_accepts : Accepts (satisfy test expected).many1 fun values read after =>
    values = read ∧ Run test read ∧ Stops test after := by
  refine accepts_congr (many1_accepts (satisfy_accepts _ _) satisfy_nonempty (satisfy_refuses _ _)) fun values read after => ?_
  rw [items_run]
  constructor
  · intro accepted
    obtain ⟨some,rfl,all,stops⟩ := accepted
    exact ⟨rfl,⟨some,all⟩,stops⟩
  · intro spelled
    obtain ⟨rfl,⟨some,all⟩,stops⟩ := spelled
    exact ⟨some,rfl,all,stops⟩

theorem run1_refuses : Refuses (satisfy test expected).many1 (Stops test) :=
  many1_refuses (satisfy_accepts _ _) satisfy_nonempty (satisfy_refuses _ _)

theorem word_accepts : Accepts (satisfy test expected).many1.recognize fun text read after =>
    read = text.toList ∧ Run test read ∧ Stops test after := by
  refine accepts_congr (recognize_accepts run1_accepts) fun text read after => ?_
  constructor
  · intro accepted
    obtain ⟨⟨_,_,run,stops⟩,rfl⟩ := accepted
    exact ⟨String.toList_ofList.symm,run,stops⟩
  · intro spelled
    obtain ⟨rfl,run,stops⟩ := spelled
    exact ⟨⟨_,rfl,run,stops⟩,String.ofList_toList⟩

theorem char_accepts (c : Char) : Accepts (char c) fun value read _ => read = [c] ∧ value = c := by
  refine accepts_congr (satisfy_accepts _ _) fun value read after => ?_
  constructor
  · intro accepted
    obtain ⟨rfl,same⟩ := accepted
    obtain rfl := beq_iff_eq.mp same
    exact ⟨rfl,rfl⟩
  · intro spelled
    obtain ⟨rfl,rfl⟩ := spelled
    exact ⟨rfl,beq_self_eq_true _⟩

theorem char_nonempty (c : Char) : Nonempty (fun value read _ => read = [c] ∧ value = c) := by
  intro value after found
  obtain ⟨empty,_⟩ := found
  cases empty

end Runs

theorem parseComplete_exact {parser : Parser α} {language : TextLanguage α} (accepts : Accepts parser language)
    (text : String) (value : α) :
    (parser.parseComplete text).result = .ok value ↔ language value text.toList [] := by
  rw [parseComplete_succeeds]
  constructor
  · intro found
    obtain ⟨stop,ran,atEnd⟩ := found
    obtain ⟨read,passed,spelled⟩ := (accepts .start).mp ran
    have nothing : stop.rest = [] := List.head?_eq_none_iff.mp atEnd
    have whole := passed.2.1
    rw [nothing,List.append_nil,start_rest] at whole
    rw [whole,← nothing]
    exact spelled
  · intro spelled
    have whole : (Cursor.start text).rest = text.toList ++ [] := (List.append_nil _).symm
    obtain ⟨stop,_,nothing,ran⟩ := accepts_front accepts .start whole spelled
    refine ⟨stop,ran,?_⟩
    rw [peek?,nothing,List.head?_nil]

end CommittedParsing.Parser
