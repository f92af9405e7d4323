import CommittedParsing.Proofs.Parser.Location

namespace CommittedParsing

namespace Cursor

variable {source : String} {cursor stop : Cursor}

theorem reached_ahead (reached : Reached source cursor) (other : Reached source stop)
    (before : cursor.position ≤ stop.position) : cursor.Ahead stop := by
  obtain ⟨past,split⟩ := reached_split reached
  obtain ⟨more,further⟩ := reached_split other
  have width : Text.byteLength past ≤ Text.byteLength more := by
    rw [← split.2.2,← further.2.2]
    exact before
  have whole : past ++ cursor.rest = more ++ stop.rest := split.2.1.symm.trans further.2.1
  rcases List.append_eq_append_iff.mp whole with ⟨read,rfl,rest⟩ | ⟨back,rfl,rest⟩
  · refine ⟨read,further.1.trans split.1.symm,rest,?_⟩
    rw [further.2.2,split.2.2,Text.byteLength_append]
  · have nothing : back = [] := by
      rw [Text.byteLength_append] at width
      exact Text.byteLength_zero.mp (by omega)
    subst nothing
    refine ⟨[],further.1.trans split.1.symm,rest.symm,?_⟩
    rw [further.2.2,split.2.2,List.append_nil]
    rfl

end Cursor

namespace Parser

open Cursor

variable {α β : Type} {source : String} {cursor stop : Cursor} {value : α}

def Forward (parser : Parser α) : Prop :=
  ∀ {source cursor value stop}, Reached source cursor → Succeeds parser cursor value stop →
    Reached source stop ∧ cursor.position ≤ stop.position

def Advancing (parser : Parser α) : Prop :=
  ∀ {source cursor value stop}, Reached source cursor → Succeeds parser cursor value stop →
    cursor.position < stop.position

-- The two parsers give the same reply, events included, wherever a cursor can come to stand.
def Interchangeable (one two : Parser α) : Prop :=
  ∀ {source cursor}, Reached source cursor → one.run cursor = two.run cursor

theorem forward_ahead {parser : Parser α} (forward : Forward parser) (reached : Reached source cursor)
    (ran : Succeeds parser cursor value stop) : cursor.Ahead stop := by
  obtain ⟨later,before⟩ := forward reached ran
  exact reached_ahead reached later before

theorem onward_forward {parser : Parser α} (onward : Onward parser) : Forward parser := by
  intro source cursor value stop reached ran
  have ahead := onward.success ran
  obtain ⟨read,passed⟩ := ahead
  exact ⟨reads_reached reached passed,ahead_position ⟨read,passed⟩⟩

theorem composed_forward {allowed : Allowance} {parser : Parser α} (composed : Composed allowed parser) :
    Forward parser := onward_forward (composed_onward composed)

theorem satisfy_advancing (test : Char → Bool) (expected : String) : Advancing (satisfy test expected) := by
  intro source cursor c stop reached ran
  have passed := (satisfy_succeeds.mp ran).1
  exact (reads_further passed).mpr (List.cons_ne_nil c [])

theorem chain_forward {step : Cursor → α → Cursor → Prop} {values : List α}
    (onward : ∀ {cursor value next}, Reached source cursor → step cursor value next →
      Reached source next ∧ cursor.position ≤ next.position)
    (reached : Reached source cursor) (chain : Chain step cursor values stop) :
    Reached source stop ∧ cursor.position ≤ stop.position := by
  induction chain with
  | nil => exact ⟨reached,Nat.le_refl _⟩
  | cons goes _ _ ih =>
      obtain ⟨inside,near⟩ := onward reached goes
      obtain ⟨ended,far⟩ := ih inside
      exact ⟨ended,Nat.le_trans near far⟩

theorem round_forward {item : Parser α} {separator : Parser β} (within : Forward item) (between : Forward separator)
    (reached : Reached source cursor) (round : Round item separator cursor value stop) :
    Reached source stop ∧ cursor.position ≤ stop.position := by
  obtain ⟨_,_,one,two⟩ := round
  obtain ⟨inside,near⟩ := between reached one
  obtain ⟨ended,far⟩ := within inside two
  exact ⟨ended,Nat.le_trans near far⟩

end Parser

end CommittedParsing
