import Mathlib.Data.List.Forall2
import CommittedParsing.Proofs.Cursor.Shift
import CommittedParsing.Proofs.Parser.Composed
import CommittedParsing.Proofs.Parser.Derived

namespace CommittedParsing

structure Failure.Shifted (front : String) (far near : Failure) : Prop where
  cause : far.fault.cause = near.fault.cause
  consumed : far.consumed = near.consumed
  text : far.fault.location.text = front ++ near.fault.location.text
  offset : far.position = front.utf8ByteSize + near.position

inductive Outcome.Shifted {α : Type} (front : String) (same : α → α → Prop) : Outcome α → Outcome α → Prop where
  | success {value other : α} {far near : Cursor} : same value other → Cursor.Shifted front far near →
      Shifted front same (.success value far) (.success other near)
  | failure {far near : Failure} : Failure.Shifted front far near →
      Shifted front same (.failure far) (.failure near)

theorem outcome_loosens {α : Type} {front : String} {same loose : α → α → Prop} {one two : Outcome α}
    (shift : Outcome.Shifted front same one two) (looser : ∀ value other, same value other → loose value other) :
    Outcome.Shifted front loose one two := by
  cases shift with
  | success agree moved => exact .success (looser _ _ agree) moved
  | failure moved => exact .failure moved

namespace Failure

variable {front : String} {far near : Cursor} {one two : Failure}

theorem shifted_here (cause : Cause) (shift : Cursor.Shifted front far near) :
    Shifted front (.clean cause far.location) (.clean cause near.location) :=
  ⟨rfl,rfl,shift.source,shift.position⟩

theorem shifted_consumedIf {before after : Bool} (shift : Shifted front one two) (advanced : before = after) :
    Shifted front (one.consumedIf before) (two.consumedIf after) where
  cause := shift.cause
  consumed := by rw [consumedIf_consumed,consumedIf_consumed,shift.consumed,advanced]
  text := shift.text
  offset := shift.offset

end Failure

namespace Reply

variable {α β : Type} {front : String} {same : α → α → Prop} {other : β → β → Prop} {one two : Reply α}

theorem andThen_shifted {next follow : α → Cursor → Reply β} (shift : Outcome.Shifted front same one.outcome two.outcome)
    (later : ∀ {value near far begun}, same value begun → Cursor.Shifted front far near →
      Outcome.Shifted front other (next value far).outcome (follow begun near).outcome) :
    Outcome.Shifted front other (one.andThen next).outcome (two.andThen follow).outcome := by
  obtain ⟨outcome,events⟩ := one
  obtain ⟨result,others⟩ := two
  cases shift with
  | success agree moved => exact later agree moved
  | failure moved => exact .failure moved

theorem map_shifted {f g : α → β} (shift : Outcome.Shifted front same one.outcome two.outcome)
    (maps : ∀ {value begun}, same value begun → other (f value) (g begun)) :
    Outcome.Shifted front other (one.map f).outcome (two.map g).outcome := by
  obtain ⟨outcome,events⟩ := one
  obtain ⟨result,others⟩ := two
  cases shift with
  | success agree moved => exact .success (maps agree) moved
  | failure moved => exact .failure moved

theorem recover_shifted {next follow : Failure → Reply α} (shift : Outcome.Shifted front same one.outcome two.outcome)
    (later : ∀ {far near}, Failure.Shifted front far near →
      Outcome.Shifted front same (next far).outcome (follow near).outcome) :
    Outcome.Shifted front same (one.recover next).outcome (two.recover follow).outcome := by
  obtain ⟨outcome,events⟩ := one
  obtain ⟨result,others⟩ := two
  cases shift with
  | success agree moved => exact .success agree moved
  | failure moved => exact later moved

theorem mapFailure_shifted {f g : Failure → Failure} (shift : Outcome.Shifted front same one.outcome two.outcome)
    (maps : ∀ {far near}, Failure.Shifted front far near → Failure.Shifted front (f far) (g near)) :
    Outcome.Shifted front same (one.mapFailure f).outcome (two.mapFailure g).outcome := by
  obtain ⟨outcome,events⟩ := one
  obtain ⟨result,others⟩ := two
  cases shift with
  | success agree moved => exact .success agree moved
  | failure moved => exact .failure (maps moved)

theorem consumedIf_shifted {before after : Bool} (shift : Outcome.Shifted front same one.outcome two.outcome)
    (advanced : before = after) :
    Outcome.Shifted front same (one.consumedIf before).outcome (two.consumedIf after).outcome :=
  mapFailure_shifted shift fun moved => Failure.shifted_consumedIf moved advanced

end Reply

namespace Parser

open Cursor

variable {α β γ : Type}

inductive SameCheck (same : α → α → Prop) : Except String α → Except String α → Prop where
  | ok {value other : α} : same value other → SameCheck same (.ok value) (.ok other)
  | error (message : String) : SameCheck same (.error message) (.error message)

-- Parsers built alike from functions that do not look at where spans lie. The relation says when two values
-- differ in nothing else: a character or a recognised text not at all, a span as behind the front text, and
-- values made of others part by part. The functions on both sides have to keep to it.
inductive Alike (front : String) : {α : Type} → (α → α → Prop) → Parser α → Parser α → Prop where
  | satisfy (test : Char → Bool) (expected : String) : Alike front Eq (satisfy test expected) (satisfy test expected)
  | eof : Alike front Eq eof eof
  | pure {α : Type} {same : α → α → Prop} {value other : α} : same value other →
      Alike front same (Parser.pure value) (Parser.pure other)
  | fail {α : Type} {same : α → α → Prop} (message : String) :
      Alike front same (Parser.fail message) (Parser.fail message)
  | map {α β : Type} {same : α → α → Prop} {mapped : β → β → Prop} {one two : Parser α} {f g : α → β} :
      Alike front same one two → (∀ value other, same value other → mapped (f value) (g other)) →
      Alike front mapped (one.map f) (two.map g)
  | mapReporting {α β : Type} {same : α → α → Prop} {mapped : β → β → Prop} {one two : Parser α}
      {f g : α → β × List Event} : Alike front same one two →
      (∀ value other, same value other → mapped (f value).1 (g other).1) →
      Alike front mapped (one.mapReporting f) (two.mapReporting g)
  | tryMap {α β : Type} {same : α → α → Prop} {mapped : β → β → Prop} {one two : Parser α}
      {convert check : α → Except String β} : Alike front same one two →
      (∀ value other, same value other → SameCheck mapped (convert value) (check other)) →
      Alike front mapped (one.tryMap convert) (two.tryMap check)
  | bind {α β : Type} {same : α → α → Prop} {chosen : β → β → Prop} {one two : Parser α}
      {next follow : α → Parser β} : Alike front same one two →
      (∀ value other, same value other → Alike front chosen (next value) (follow other)) →
      Alike front chosen (one.bind next) (two.bind follow)
  | pair {α β : Type} {same : α → α → Prop} {later : β → β → Prop} {one two : Parser α} {next follow : Parser β} :
      Alike front same one two → Alike front later next follow →
      Alike front (fun values others => same values.1 others.1 ∧ later values.2 others.2) (one.pair next)
        (two.pair follow)
  | between {α β γ : Type} {same : β → β → Prop} {opened : α → α → Prop} {closed : γ → γ → Prop}
      {opening mark : Parser α} {content inner : Parser β} {closing last : Parser γ} :
      Alike front opened opening mark → Alike front same content inner → Alike front closed closing last →
      Alike front same (between opening content closing) (between mark inner last)
  | orElse {α : Type} {same : α → α → Prop} {first one second two : Parser α} : Alike front same first one →
      Alike front same second two → Alike front same (first.orElse second) (one.orElse two)
  | attempt {α : Type} {same : α → α → Prop} {one two : Parser α} : Alike front same one two →
      Alike front same one.attempt two.attempt
  | optional {α : Type} {same : α → α → Prop} {one two : Parser α} : Alike front same one two →
      Alike front (Option.Rel same) one.optional two.optional
  | many {α : Type} {same : α → α → Prop} {one two : Parser α} : Alike front same one two →
      Alike front (List.Forall₂ same) one.many two.many
  | many1 {α : Type} {same : α → α → Prop} {one two : Parser α} : Alike front same one two →
      Alike front (List.Forall₂ same) one.many1 two.many1
  | separatedBy {α β : Type} {same : α → α → Prop} {marked : β → β → Prop} {item one : Parser α}
      {separator two : Parser β} : Alike front same item one → Alike front marked separator two →
      Alike front (List.Forall₂ same) (item.separatedBy separator) (one.separatedBy two)
  | withSpan {α : Type} {same : α → α → Prop} {one two : Parser α} : Alike front same one two →
      Alike front (fun values others => same values.1 others.1 ∧ Span.Shifted front values.2 others.2) one.withSpan
        two.withSpan
  | recognize {α : Type} {same : α → α → Prop} {one two : Parser α} : Alike front same one two →
      Alike front Eq one.recognize two.recognize
  -- Values that agree more closely may be taken to agree less closely.
  | loosen {α : Type} {same loose : α → α → Prop} {one two : Parser α} : Alike front same one two →
      (∀ value other, same value other → loose value other) → Alike front loose one two

def Parallel (front : String) (same : α → α → Prop) (one two : Parser α) : Prop :=
  ∀ {far near}, Cursor.Shifted front far near → Outcome.Shifted front same (one.run far).outcome (two.run near).outcome

section Steps

variable {front : String} {same : α → α → Prop} {one two : Parser α} {far near nearer : Cursor}

theorem parallel_succeeds (parallel : Parallel front same one two) (shift : Shifted front far near) {other : α}
    (ran : Succeeds two near other nearer) :
    ∃ value farther, Succeeds one far value farther ∧ same value other ∧ Shifted front farther nearer := by
  have shown := parallel shift
  unfold Succeeds at ran ⊢
  rw [ran] at shown
  cases answered : (one.run far).outcome with
  | success value farther =>
      rw [answered] at shown
      cases shown with
      | success agree moved => exact ⟨value,farther,rfl,agree,moved⟩
  | failure failed =>
      rw [answered] at shown
      cases shown

theorem parallel_fails (parallel : Parallel front same one two) (shift : Shifted front far near) {second : Failure}
    (ran : Fails two near second) : ∃ first, Fails one far first ∧ Failure.Shifted front first second := by
  have shown := parallel shift
  unfold Fails at ran ⊢
  rw [ran] at shown
  cases answered : (one.run far).outcome with
  | success value farther =>
      rw [answered] at shown
      cases shown
  | failure failed =>
      rw [answered] at shown
      cases shown with
      | failure moved => exact ⟨failed,rfl,moved⟩

theorem parallel_declines (parallel : Parallel front same one two) (shift : Shifted front far near)
    (declined : Declines two near) : Declines one far := by
  obtain ⟨second,ran,unread⟩ := declined
  obtain ⟨first,answered,moved⟩ := parallel_fails parallel shift ran
  exact ⟨first,answered,moved.consumed.trans unread⟩

theorem shifted_success {value other : α} {farther : Cursor} (ran : Succeeds one far value farther)
    (answered : Succeeds two near other nearer) (agree : same value other) (moved : Shifted front farther nearer) :
    Outcome.Shifted front same (one.run far).outcome (two.run near).outcome := by
  rw [show (one.run far).outcome = _ from ran,show (two.run near).outcome = _ from answered]
  exact .success agree moved

theorem shifted_failure {first second : Failure} (ran : Fails one far first) (answered : Fails two near second)
    (moved : Failure.Shifted front first second) :
    Outcome.Shifted front same (one.run far).outcome (two.run near).outcome := by
  rw [show (one.run far).outcome = _ from ran,show (two.run near).outcome = _ from answered]
  exact .failure moved

theorem parallel_agrees {first second : Parser α} (agrees : Agrees first one) (matching : Agrees second two)
    (parallel : Parallel front same one two) : Parallel front same first second := by
  intro far near shift
  rw [agrees far,matching near]
  exact parallel shift

end Steps

section Combined

variable {front : String} {same : α → α → Prop} {later : β → β → Prop} {closed : γ → γ → Prop}
  {one two : Parser α} {next follow : Parser β}

theorem satisfy_parallel (test : Char → Bool) (expected : String) :
    Parallel front Eq (satisfy test expected) (satisfy test expected) := by
  intro far near shift
  rcases answers (satisfy test expected) near with ⟨c,nearer,ran⟩ | ⟨failed,ran⟩
  · obtain ⟨passed,accepted⟩ := satisfy_succeeds.mp ran
    obtain ⟨farther,further,moved⟩ := shifted_advance shift passed
    exact shifted_success (satisfy_succeeds.mpr ⟨further,accepted⟩) ran rfl moved
  · rcases satisfy_fails.mp ran with ⟨missing,rfl⟩ | ⟨c,ahead,refused,rfl⟩
    · have ended := (shifted_peek shift).trans missing
      exact shifted_failure (satisfy_fails.mpr (.inl ⟨ended,rfl⟩)) ran (Failure.shifted_here _ shift)
    · have found := (shifted_peek shift).trans ahead
      exact shifted_failure (satisfy_fails.mpr (.inr ⟨c,found,refused,rfl⟩)) ran (Failure.shifted_here _ shift)

theorem eof_parallel : Parallel front Eq eof eof := by
  intro far near shift
  cases ahead : near.peek? with
  | none =>
      have ended := (shifted_peek shift).trans ahead
      have stays : Succeeds eof near () near := eof_succeeds.mpr ⟨rfl,ahead⟩
      exact shifted_success (eof_succeeds.mpr ⟨rfl,ended⟩) stays rfl shift
  | some c =>
      have found := (shifted_peek shift).trans ahead
      have refused := eof_fails.mpr ⟨c,ahead,rfl⟩
      exact shifted_failure (eof_fails.mpr ⟨c,found,rfl⟩) refused (Failure.shifted_here _ shift)

theorem pure_parallel {value other : α} (agree : same value other) :
    Parallel front same (Parser.pure value) (Parser.pure other) := fun shift => .success agree shift

theorem fail_parallel (message : String) :
    Parallel front same (Parser.fail message) (Parser.fail message) :=
  fun shift => .failure (Failure.shifted_here _ shift)

theorem map_parallel {f g : α → β} (parallel : Parallel front same one two)
    (maps : ∀ value other, same value other → later (f value) (g other)) :
    Parallel front later (one.map f) (two.map g) := by
  intro far near shift
  exact Reply.map_shifted (parallel shift) fun agree => maps _ _ agree

theorem tryMap_parallel {convert check : α → Except String β} (parallel : Parallel front same one two)
    (maps : ∀ value other, same value other → SameCheck later (convert value) (check other)) :
    Parallel front later (one.tryMap convert) (two.tryMap check) := by
  intro far near shift
  apply Reply.andThen_shifted (parallel shift)
  intro value farther nearer other agree moved
  have checks := maps value other agree
  generalize convert value = converted at checks ⊢
  generalize check other = checked at checks ⊢
  cases checks with
  | ok related => exact .success related moved
  | error message =>
      apply Outcome.Shifted.failure
      apply Failure.shifted_consumedIf (Failure.shifted_here _ shift)
      rw [decide_eq_decide]
      exact shifted_further shift moved

theorem bind_parallel {next follow : α → Parser β} (parallel : Parallel front same one two)
    (chosen : ∀ value other, same value other → Parallel front later (next value) (follow other)) :
    Parallel front later (one.bind next) (two.bind follow) := by
  intro far near shift
  apply Reply.andThen_shifted (parallel shift)
  intro value farther nearer other agree moved
  apply Reply.consumedIf_shifted (chosen value other agree moved)
  rw [decide_eq_decide]
  exact shifted_further shift moved

theorem pair_parallel (parallel : Parallel front same one two) (after : Parallel front later next follow) :
    Parallel front (fun values others => same values.1 others.1 ∧ later values.2 others.2) (one.pair next)
      (two.pair follow) := by
  apply parallel_agrees (pair_agrees one next) (pair_agrees two follow)
  apply bind_parallel parallel
  intro value other agree
  exact map_parallel after fun _ _ agreed => ⟨agree,agreed⟩

theorem between_parallel {opening mark : Parser α} {content inner : Parser β} {closing last : Parser γ}
    (opened : Parallel front same opening mark) (filled : Parallel front later content inner)
    (ended : Parallel front closed closing last) :
    Parallel front later (between opening content closing) (between mark inner last) := by
  apply parallel_agrees (between_agrees opening content closing) (between_agrees mark inner last)
  exact map_parallel (pair_parallel (pair_parallel opened filled) ended) fun _ _ agree => agree.1.2

theorem orElse_parallel {instead other : Parser α} (parallel : Parallel front same one two)
    (branch : Parallel front same instead other) : Parallel front same (one.orElse instead) (two.orElse other) := by
  intro far near shift
  apply Reply.recover_shifted (parallel shift)
  intro first second moved
  cases committed : second.consumed with
  | true =>
      rw [if_pos (moved.consumed.trans committed),if_pos rfl]
      exact .failure moved
  | false =>
      rw [if_neg (by simp [moved.consumed.trans committed]),if_neg (by simp)]
      exact branch shift

theorem attempt_parallel (parallel : Parallel front same one two) : Parallel front same one.attempt two.attempt := by
  intro far near shift
  apply Reply.mapFailure_shifted (parallel shift)
  intro first second moved
  exact ⟨moved.cause,rfl,moved.text,moved.offset⟩

theorem optional_parallel (parallel : Parallel front same one two) :
    Parallel front (Option.Rel same) one.optional two.optional := by
  intro far near shift
  apply Reply.recover_shifted (Reply.map_shifted (parallel shift) fun agree => .some agree)
  intro first second moved
  exact .success .none shift

theorem withSpan_parallel (parallel : Parallel front same one two) :
    Parallel front (fun values others => same values.1 others.1 ∧ Span.Shifted front values.2 others.2) one.withSpan
      two.withSpan := by
  intro far near shift
  apply Reply.andThen_shifted (parallel shift)
  intro value farther nearer other agree moved
  exact .success ⟨agree,shifted_span shift moved⟩ moved

theorem recognize_parallel (parallel : Parallel front same one two) :
    Parallel front Eq one.recognize two.recognize := by
  intro far near shift
  apply Reply.andThen_shifted (parallel shift)
  intro value farther nearer other agree moved
  exact .success (shifted_textUpTo shift moved) moved

end Combined

section Loops

variable {front : String} {same : α → α → Prop} {far near : Cursor}

def Tracks (front : String) (same : α → α → Prop) (step pace : Cursor → α → Cursor → Prop) : Prop :=
  ∀ {far near}, Shifted front far near → ∀ {other nearer}, pace near other nearer →
    ∃ value farther, step far value farther ∧ same value other ∧ Shifted front farther nearer

theorem chain_shifted {step pace : Cursor → α → Cursor → Prop} (tracks : Tracks front same step pace)
    {others : List α} {stop : Cursor} (chain : Chain pace near others stop) (shift : Shifted front far near) :
    ∃ values last, Chain step far values last ∧ List.Forall₂ same values others ∧ Shifted front last stop := by
  induction chain generalizing far with
  | nil => exact ⟨[],far,.nil,.nil,shift⟩
  | cons paced less _ ih =>
      obtain ⟨value,farther,stepped,agree,moved⟩ := tracks shift paced
      obtain ⟨values,last,chained,agreed,ended⟩ := ih moved
      exact ⟨value :: values,last,.cons stepped ((shifted_less shift moved).mpr less) chained,.cons agree agreed,ended⟩

theorem loop_shifted {answer reply : Cursor → Reply (List α)} {step pace : Cursor → α → Cursor → Prop}
    {done finished : Cursor → Prop} {broken breaking : Cursor → Failure → Prop}
    (loop : Loop answer step done broken) (other : Loop reply pace finished breaking)
    (tracks : Tracks front same step pace) (stops : ∀ {far near}, Shifted front far near → finished near → done far)
    (breaks : ∀ {far near}, Shifted front far near → ∀ {second}, breaking near second →
      ∃ first, broken far first ∧ Failure.Shifted front first second)
    (shift : Shifted front far near) :
    Outcome.Shifted front (List.Forall₂ same) (answer far).outcome (reply near).outcome := by
  rcases loop_sound other near with ⟨others,stop,chain,ended,ran⟩ | ⟨others,stop,second,chain,broke,ran⟩
  · obtain ⟨values,last,chained,agree,moved⟩ := chain_shifted tracks chain shift
    rw [ran,loop_done loop chained (stops moved ended)]
    exact .success agree moved
  · obtain ⟨values,last,chained,agree,moved⟩ := chain_shifted tracks chain shift
    obtain ⟨first,failed,matching⟩ := breaks moved broke
    rw [ran,loop_broken loop chained failed]
    exact .failure matching

variable {later : β → β → Prop} {one two item matched : Parser α} {separator mark : Parser β} {start origin : Cursor}

theorem stuck_shifted (begun : Shifted front start origin) (shift : Shifted front far near) :
    Failure.Shifted front (stuck start far) (stuck origin near) := by
  apply Failure.shifted_consumedIf (Failure.shifted_here _ shift)
  rw [decide_eq_decide]
  exact shifted_further begun shift

theorem repeatFrom_shifted (parallel : Parallel front same one two) (begun : Shifted front start origin)
    (shift : Shifted front far near) :
    Outcome.Shifted front (List.Forall₂ same) (repeatFrom one start far).outcome (repeatFrom two origin near).outcome := by
  have tracks : Tracks front same (Succeeds one) (Succeeds two) :=
    fun shift _ _ ran => parallel_succeeds parallel shift ran
  apply loop_shifted (repeatFrom_loop one start) (repeatFrom_loop two origin) tracks (parallel_declines parallel) _ shift
  intro far near shift second broken
  rcases broken with ⟨ran,committed⟩ | ⟨⟨other,nearer,ran,same⟩,rfl⟩
  · obtain ⟨first,answered,moved⟩ := parallel_fails parallel shift ran
    exact ⟨first,.inl ⟨answered,moved.consumed.trans committed⟩,moved⟩
  · obtain ⟨value,farther,answered,_,moved⟩ := parallel_succeeds parallel shift ran
    exact ⟨_,.inr ⟨⟨value,farther,answered,mt (shifted_less shift moved).mp same⟩,rfl⟩,stuck_shifted begun shift⟩

theorem round_tracks (within : Parallel front same item matched) (between : Parallel front later separator mark) :
    Tracks front same (Round item separator) (Round matched mark) := by
  intro far near shift other nearer round
  obtain ⟨sign,after,ran,found⟩ := round
  obtain ⟨_,behind,answered,_,moved⟩ := parallel_succeeds between shift ran
  obtain ⟨value,farther,taken,agree,ended⟩ := parallel_succeeds within moved found
  exact ⟨value,farther,⟨_,behind,answered,taken⟩,agree,ended⟩

theorem separatedFrom_shifted (within : Parallel front same item matched)
    (between : Parallel front later separator mark) (begun : Shifted front start origin)
    (shift : Shifted front far near) :
    Outcome.Shifted front (List.Forall₂ same) (separatedFrom item separator start far).outcome
      (separatedFrom matched mark origin near).outcome := by
  apply loop_shifted (separatedFrom_loop item separator start) (separatedFrom_loop matched mark origin)
    (round_tracks within between) (parallel_declines between) _ shift
  intro far near shift second broken
  rcases broken with ⟨ran,committed⟩ | ⟨_,after,last,ran,missing,rfl⟩ | ⟨⟨other,nearer,round,same⟩,rfl⟩
  · obtain ⟨first,answered,moved⟩ := parallel_fails between shift ran
    exact ⟨first,.inl ⟨answered,moved.consumed.trans committed⟩,moved⟩
  · obtain ⟨_,behind,answered,_,moved⟩ := parallel_succeeds between shift ran
    obtain ⟨first,refused,matching⟩ := parallel_fails within moved missing
    refine ⟨_,.inr (.inl ⟨_,behind,first,answered,refused,rfl⟩),?_⟩
    apply Failure.shifted_consumedIf matching
    rw [decide_eq_decide]
    exact shifted_further begun moved
  · obtain ⟨value,farther,stepped,_,moved⟩ := round_tracks within between shift round
    have stays := mt (shifted_less shift moved).mp same
    exact ⟨_,.inr (.inr ⟨⟨value,farther,stepped,stays⟩,rfl⟩),stuck_shifted begun shift⟩

theorem many_parallel (parallel : Parallel front same one two) :
    Parallel front (List.Forall₂ same) one.many two.many :=
  fun shift => repeatFrom_shifted parallel shift shift

theorem many1_parallel (parallel : Parallel front same one two) :
    Parallel front (List.Forall₂ same) one.many1 two.many1 := by
  intro far near begun
  apply Reply.andThen_shifted (parallel begun)
  intro value farther nearer other agree moved
  exact Reply.map_shifted (repeatFrom_shifted parallel begun moved) fun agreed => .cons agree agreed

theorem separatedBy_parallel (within : Parallel front same item matched)
    (between : Parallel front later separator mark) :
    Parallel front (List.Forall₂ same) (item.separatedBy separator) (matched.separatedBy mark) := by
  intro far near begun
  apply Reply.andThen_shifted (within begun)
  intro value farther nearer other agree moved
  exact Reply.map_shifted (separatedFrom_shifted within between begun moved) fun agreed => .cons agree agreed

end Loops

theorem alike_parallel {front : String} {same : α → α → Prop} {one two : Parser α}
    (alike : Alike front same one two) : Parallel front same one two := by
  induction alike with
  | satisfy test expected => exact satisfy_parallel test expected
  | eof => exact eof_parallel
  | pure agree => exact pure_parallel agree
  | fail message => exact fail_parallel message
  | map _ maps inner => exact map_parallel inner maps
  | mapReporting _ maps inner =>
      exact parallel_agrees (mapReporting_agrees _ _) (mapReporting_agrees _ _) (map_parallel inner maps)
  | tryMap _ checks inner => exact tryMap_parallel inner checks
  | bind _ _ inner chosen => exact bind_parallel inner chosen
  | pair _ _ before after => exact pair_parallel before after
  | between _ _ _ opened filled closed => exact between_parallel opened filled closed
  | orElse _ _ inner branch => exact orElse_parallel inner branch
  | attempt _ inner => exact attempt_parallel inner
  | optional _ inner => exact optional_parallel inner
  | many _ inner => exact many_parallel inner
  | many1 _ inner => exact many1_parallel inner
  | separatedBy _ _ within between => exact separatedBy_parallel within between
  | withSpan _ inner => exact withSpan_parallel inner
  | recognize _ inner => exact recognize_parallel inner
  | loosen _ looser inner => exact fun shift => outcome_loosens (inner shift) looser

-- Where no span is taken, values are the same outright, and any function will do.
theorem composed_alike {front : String} {allowed : Allowance} {parser : Parser α} (plain : allowed.span = false)
    (composed : Composed allowed parser) : Alike front Eq parser parser := by
  induction composed with
  | satisfy test expected => exact .satisfy test expected
  | eof => exact .eof
  | pure value => exact .pure rfl
  | fail message => exact .fail message
  | map f _ inner => exact .map inner fun _ _ agree => congrArg f agree
  | mapReporting f _ inner => exact .mapReporting inner fun _ _ agree => congrArg (fun value => (f value).1) agree
  | tryMap convert _ _ inner =>
      refine .tryMap inner ?_
      rintro value _ rfl
      cases convert value with
      | ok result => exact .ok rfl
      | error message => exact .error message
  | bind _ _ inner later =>
      refine .bind inner ?_
      rintro value _ rfl
      exact later value
  | pair _ _ before after => exact .loosen (.pair before after) fun _ _ agree => Prod.ext agree.1 agree.2
  | between _ _ _ opened filled closed => exact .between opened filled closed
  | orElse _ _ inner instead => exact .orElse inner instead
  | attempt _ _ inner => exact .attempt inner
  | optional _ _ inner =>
      refine .loosen (.optional inner) ?_
      intro value other agree
      cases agree with
      | some agreed => exact congrArg some agreed
      | none => rfl
  | many _ inner => exact .loosen (.many inner) fun _ _ agree => List.forall₂_eq_eq_eq ▸ agree
  | many1 _ inner => exact .loosen (.many1 inner) fun _ _ agree => List.forall₂_eq_eq_eq ▸ agree
  | separatedBy _ _ within between =>
      exact .loosen (.separatedBy within between) fun _ _ agree => List.forall₂_eq_eq_eq ▸ agree
  | withSpan spanned => exact absurd (spanned.symm.trans plain) (by decide)
  | recognize _ inner => exact .recognize inner

-- What a parser answers right behind a front text is what it answers at the start of the text alone, with
-- spans, cursors and failures moved by the size of the front.
theorem alike_shifted {front back : String} {same : α → α → Prop} {parser : Parser α}
    (alike : Alike front same parser parser) {far : Cursor} (reached : Reached (front ++ back) far)
    (behind : far.position = front.utf8ByteSize) :
    (∃ value stop other last, Succeeds parser far value stop ∧ Succeeds parser (Cursor.start back) other last ∧
      same value other ∧ stop.source = front ++ last.source ∧
      stop.position = front.utf8ByteSize + last.position ∧ stop.rest = last.rest) ∨
    ∃ failed other, Fails parser far failed ∧ Fails parser (Cursor.start back) other ∧
      failed.fault.cause = other.fault.cause ∧ failed.consumed = other.consumed ∧
      failed.fault.location.text = front ++ other.fault.location.text ∧
      failed.position = front.utf8ByteSize + other.position := by
  have shift := reached_shifted reached behind
  rcases answers parser (Cursor.start back) with ⟨other,last,ran⟩ | ⟨other,ran⟩
  · obtain ⟨value,stop,answered,agree,moved⟩ := parallel_succeeds (alike_parallel alike) shift ran
    exact .inl ⟨value,stop,other,last,answered,ran,agree,moved.source,moved.position,moved.rest⟩
  · obtain ⟨failed,answered,moved⟩ := parallel_fails (alike_parallel alike) shift ran
    exact .inr ⟨failed,other,answered,ran,moved.cause,moved.consumed,moved.text,moved.offset⟩

theorem spanned_pair_shifted :
    Alike "xy" (fun values others => values.1 = others.1 ∧ Span.Shifted "xy" values.2 others.2)
      (((char 'é').pair (char '=')).withSpan.map fun value => (value.2.text?,value.2))
      (((char 'é').pair (char '=')).withSpan.map fun value => (value.2.text?,value.2)) ∧
    Reached ("xy" ++ "é=1") ⟨"xyé=1",2,['é','=','1']⟩ ∧
    ∃ value stop, Succeeds (((char 'é').pair (char '=')).withSpan.map fun value => (value.2.text?,value.2))
      ⟨"xyé=1",2,['é','=','1']⟩ value stop ∧ value.1 = some "é=" ∧ value.2.start = 2 ∧ value.2.stop = 5 ∧
      stop.position = 5 ∧ stop.rest = ['1'] := by
  have pair : Composed ⟨true,true,false,true⟩ ((char 'é').pair (char '=')) := .pair (.satisfy _ _) (.satisfy _ _)
  have alike : Alike "xy" (fun values others => values.1 = others.1 ∧ Span.Shifted "xy" values.2 others.2)
      (((char 'é').pair (char '=')).withSpan.map fun value => (value.2.text?,value.2))
      (((char 'é').pair (char '=')).withSpan.map fun value => (value.2.text?,value.2)) :=
    .map (.withSpan (composed_alike rfl pair)) fun _ _ agree => ⟨agree.2.text,agree.2⟩
  have reached : Reached ("xy" ++ "é=1") ⟨"xyé=1",2,['é','=','1']⟩ :=
    .advance (c := 'y') (.advance (c := 'x') .start rfl) rfl
  have near : Succeeds (((char 'é').pair (char '=')).withSpan.map fun value => (value.2.text?,value.2))
      (Cursor.start "é=1") (some "é=",⟨"é=1",0,3⟩) ⟨"é=1",3,['1']⟩ := rfl
  refine ⟨alike,reached,?_⟩
  rcases alike_shifted alike reached rfl with ⟨value,stop,other,last,ran,answered,agree,_,moved,rest⟩ | ⟨_,_,_,failed,_⟩
  · obtain ⟨rfl,rfl⟩ := succeeds_unique near answered
    exact ⟨value,stop,ran,agree.1,agree.2.start,agree.2.stop,moved,rest⟩
  · exact absurd failed (succeeds_not_fails near)

end Parser

end CommittedParsing
