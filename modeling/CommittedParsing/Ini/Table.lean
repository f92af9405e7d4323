namespace CommittedParsing

structure Table (α : Type) where
  entries : List (String × α)
  ascending : entries.Pairwise fun a b => a.1 < b.1
deriving DecidableEq

namespace Table

variable {α : Type}

def insertEntry (key : String) (value : α) : List (String × α) → List (String × α)
  | [] => [(key,value)]
  | (k,v) :: rest =>
    if key < k then (key,value) :: (k,v) :: rest
    else if key = k then (key,value) :: rest
    else (k,v) :: insertEntry key value rest

theorem insertEntry_key {key : String} {value : α} {entries : List (String × α)} {entry : String × α}
    (member : entry ∈ insertEntry key value entries) : entry.1 = key ∨ entry ∈ entries := by
  induction entries with
  | nil =>
      simp only [insertEntry,List.mem_singleton] at member
      exact .inl (congrArg Prod.fst member)
  | cons first rest ih =>
      simp only [insertEntry] at member
      split at member
      · rcases List.mem_cons.mp member with rfl | old
        · exact .inl rfl
        · exact .inr old
      · split at member
        · rcases List.mem_cons.mp member with rfl | old
          · exact .inl rfl
          · exact .inr (List.mem_cons_of_mem _ old)
        · rcases List.mem_cons.mp member with rfl | old
          · exact .inr List.mem_cons_self
          · exact (ih old).imp id (List.mem_cons_of_mem _)

theorem insertEntry_ascending (key : String) (value : α) (entries : List (String × α))
    (ascending : entries.Pairwise fun a b => a.1 < b.1) :
    (insertEntry key value entries).Pairwise fun a b => a.1 < b.1 := by
  induction entries with
  | nil => simp [insertEntry]
  | cons first rest ih =>
      obtain ⟨below,later⟩ := List.pairwise_cons.mp ascending
      simp only [insertEntry]
      split
      · next before =>
        refine List.pairwise_cons.mpr ⟨?_,ascending⟩
        intro entry member
        rcases List.mem_cons.mp member with rfl | old
        · exact before
        · exact String.lt_trans before (below entry old)
      · next notBefore =>
        split
        · next same => exact List.pairwise_cons.mpr ⟨fun entry old => same ▸ below entry old,later⟩
        · next other =>
          refine List.pairwise_cons.mpr ⟨?_,ih later⟩
          intro entry member
          rcases insertEntry_key member with new | old
          · have reversed : first.1 ≤ key := String.not_lt.mp notBefore
            rw [new]
            exact String.not_le.mp fun back => other (String.le_antisymm back reversed)
          · exact below entry old

def empty : Table α := ⟨[],.nil⟩

def insert (table : Table α) (key : String) (value : α) : Table α :=
  ⟨insertEntry key value table.entries,insertEntry_ascending key value table.entries table.ascending⟩

def ofList (pairs : List (String × α)) : Table α := pairs.foldl (fun table (key,value) => table.insert key value) empty

def find? (table : Table α) (key : String) : Option (String × α) := table.entries.find? fun entry => entry.1 == key

def get? (table : Table α) (key : String) : Option α := (table.find? key).map Prod.snd

def contains (table : Table α) (key : String) : Bool := (table.find? key).isSome

def keys (table : Table α) : List String := table.entries.map Prod.fst

def size (table : Table α) : Nat := table.entries.length

def isEmpty (table : Table α) : Bool := table.entries.isEmpty

def sortKeys (keys : List String) : List String := keys.mergeSort fun a b => decide (a ≤ b)

end Table

end CommittedParsing
