import CommittedParsing.Ini.Table

namespace CommittedParsing.Table

variable {α : Type} {key other : String} {value : α} {table left right : Table α}

theorem lookup_cons_exact (pair : String × α) (pairs : List (String × α)) :
    (pair :: pairs).lookup key = if key = pair.1 then some pair.2 else pairs.lookup key := by
  obtain ⟨name,value⟩ := pair
  by_cases same : key = name
  · subst same
    simp
  · have different : (key == name) = false := beq_false_of_ne same
    simp [List.lookup_cons,different,same]

theorem lookup_map {β : Type} (f : String × α → β) (key : String) (pairs : List (String × α)) :
    (pairs.map fun pair => (pair.1,f pair)).lookup key = (pairs.lookup key).map fun value => f (key,value) := by
  induction pairs with
  | nil => rfl
  | cons pair rest ih =>
      rw [List.map_cons,lookup_cons_exact,lookup_cons_exact,ih]
      by_cases same : key = pair.1
      · subst same
        rw [if_pos rfl,if_pos rfl,Option.map_some]
      · rw [if_neg same,if_neg same]

def lastOf (pairs : List (String × α)) (key : String) : Option α := pairs.reverse.lookup key

theorem lastOf_cons (pair : String × α) (pairs : List (String × α)) (before : Option α) :
    (lastOf (pair :: pairs) key).or before = (lastOf pairs key).or (if key = pair.1 then some pair.2 else before) := by
  rw [lastOf,List.reverse_cons,List.lookup_append,lookup_cons_exact,List.lookup_nil,Option.or_assoc,lastOf]
  split
  · rw [Option.some_or]
  · rw [Option.none_or]

theorem lastOf_append (first second : List (String × α)) :
    lastOf (first ++ second) key = (lastOf second key).or (lastOf first key) := by
  rw [lastOf,List.reverse_append,List.lookup_append]
  rfl

theorem lastOf_isSome {pairs : List (String × α)} : (lastOf pairs key).isSome ↔ ∃ value, (key,value) ∈ pairs := by
  rw [lastOf,List.lookup_isSome_iff]
  constructor
  · intro found
    obtain ⟨⟨name,value⟩,member,same⟩ := found
    obtain rfl := beq_iff_eq.mp same
    exact ⟨value,List.mem_reverse.mp member⟩
  · intro found
    obtain ⟨value,member⟩ := found
    exact ⟨(key,value),List.mem_reverse.mpr member,beq_self_eq_true key⟩

theorem lookup_find? (pairs : List (String × α)) (key : String) :
    pairs.lookup key = (pairs.find? fun pair => pair.1 == key).map Prod.snd := by
  induction pairs with
  | nil => rfl
  | cons pair rest ih =>
      rw [lookup_cons_exact,List.find?_cons]
      by_cases same : key = pair.1
      · simp [same]
      · have different : (pair.1 == key) = false := beq_false_of_ne (Ne.symm same)
        simp only [different,same,if_false]
        exact ih

theorem get?_lookup (table : Table α) (key : String) : table.get? key = table.entries.lookup key :=
  (lookup_find? table.entries key).symm

theorem insertEntry_lookup (entries : List (String × α)) :
    (insertEntry key value entries).lookup other = if other = key then some value else entries.lookup other := by
  induction entries with
  | nil => simp [insertEntry,lookup_cons_exact]
  | cons entry rest ih =>
      obtain ⟨name,old⟩ := entry
      unfold insertEntry
      split
      · rw [lookup_cons_exact]
      · split
        · next same =>
          subst same
          rw [lookup_cons_exact,lookup_cons_exact]
          split <;> rfl
        · next different =>
          rw [lookup_cons_exact,lookup_cons_exact,ih]
          by_cases first : other = name
          · have later : other ≠ key := fun same => different (same.symm.trans first)
            simp [first,first ▸ later]
          · simp [first]

theorem get?_insert : (table.insert key value).get? other = if other = key then some value else table.get? other := by
  rw [get?_lookup,get?_lookup]
  exact insertEntry_lookup table.entries

theorem get?_empty : (empty : Table α).get? key = none := rfl

theorem mem_keys : key ∈ table.keys ↔ (table.get? key).isSome := by
  rw [get?_lookup,List.lookup_isSome_iff,keys,List.mem_map]
  constructor
  · intro found
    obtain ⟨entry,member,rfl⟩ := found
    exact ⟨entry,member,beq_self_eq_true _⟩
  · intro found
    obtain ⟨entry,member,same⟩ := found
    exact ⟨entry,member,(beq_iff_eq.mp same).symm⟩

theorem lookup_above {entries : List (String × α)} (above : ∀ entry ∈ entries, key < entry.1) :
    entries.lookup key = none := by
  rw [List.lookup_eq_none_iff]
  intro entry member
  have larger := above entry member
  refine bne_iff_ne.mpr fun same => ?_
  subst same
  exact String.lt_irrefl _ larger

theorem first_not_above {x y : String × α} {xs ys : List (String × α)} (above : ∀ entry ∈ ys, y.1 < entry.1)
    (found : (x :: xs).lookup x.1 = (y :: ys).lookup x.1) : y.1 ≤ x.1 := by
  refine String.not_lt.mp fun less => ?_
  have missing : (y :: ys).lookup x.1 = none := by
    refine lookup_above fun entry member => ?_
    rcases List.mem_cons.mp member with rfl | later
    · exact less
    · exact String.lt_trans less (above entry later)
  rw [missing,lookup_cons_exact,if_pos rfl] at found
  cases found

-- Ascending entries are told apart by some lookup, at the latest of the smaller first key.
theorem ascending_ext {xs ys : List (String × α)} (first : xs.Pairwise fun a b => a.1 < b.1)
    (second : ys.Pairwise fun a b => a.1 < b.1) (same : ∀ key, xs.lookup key = ys.lookup key) : xs = ys := by
  induction xs generalizing ys with
  | nil =>
      cases ys with
      | nil => rfl
      | cons y ys =>
          have found := same y.1
          rw [lookup_cons_exact,if_pos rfl] at found
          cases found
  | cons x xs ih =>
      cases ys with
      | nil =>
          have found := same x.1
          rw [lookup_cons_exact,if_pos rfl] at found
          cases found
      | cons y ys =>
          obtain ⟨belowX,restX⟩ := List.pairwise_cons.mp first
          obtain ⟨belowY,restY⟩ := List.pairwise_cons.mp second
          have keys : x.1 = y.1 := String.le_antisymm (first_not_above belowX (same y.1).symm)
            (first_not_above belowY (same x.1))
          have values : some x.2 = some y.2 := by
            have found := same x.1
            rwa [lookup_cons_exact,if_pos rfl,lookup_cons_exact,if_pos keys] at found
          have heads : x = y := Prod.ext keys (Option.some.inj values)
          have tails : xs = ys := by
            refine ih restX restY fun key => ?_
            by_cases head : key = x.1
            · subst head
              rw [lookup_above belowX,lookup_above (keys ▸ belowY)]
            · have found := same key
              rwa [lookup_cons_exact,if_neg head,lookup_cons_exact,if_neg (keys ▸ head)] at found
          rw [heads,tails]

theorem table_ext (same : ∀ key, left.get? key = right.get? key) : left = right := by
  have entries : left.entries = right.entries := by
    refine ascending_ext left.ascending right.ascending fun key => ?_
    rw [← get?_lookup,← get?_lookup]
    exact same key
  cases left
  cases right
  cases entries
  rfl

end CommittedParsing.Table
