import CommittedParsing.Ini.Config
import CommittedParsing.Proofs.Ini.Table

namespace CommittedParsing

-- The keys at those places before which they occur already, in order.
def recurring (keys : List String) : List String :=
  keys.zipIdx.filterMap fun (key,index) => if key ∈ keys.take index then some key else none

def recurringAfter (seen keys : List String) : List String :=
  (keys.zipIdx seen.length).filterMap fun (key,index) => if key ∈ (seen ++ keys).take index then some key else none

theorem recurringAfter_cons (seen : List String) (key : String) (keys : List String) :
    recurringAfter seen (key :: keys) =
      if key ∈ seen then key :: recurringAfter (seen ++ [key]) keys else recurringAfter (seen ++ [key]) keys := by
  have later : seen ++ key :: keys = seen ++ [key] ++ keys := by rw [List.append_assoc]; rfl
  have width : (seen ++ [key]).length = seen.length + 1 := List.length_append
  have before : (seen ++ key :: keys).take seen.length = seen := List.take_left
  unfold recurringAfter
  rw [List.zipIdx_cons,List.filterMap_cons,width,← later]
  simp only [before]
  by_cases known : key ∈ seen
  · simp only [known,if_true]
  · simp only [known,if_false]

namespace Table

variable {α : Type} {table : Table α}

theorem contains_get? (table : Table α) (key : String) : table.contains key = (table.get? key).isSome := by
  rw [contains,get?,Option.isSome_map]

theorem contains_insert (key other : String) (value : α) :
    (table.insert key value).contains other ↔ other = key ∨ table.contains other := by
  rw [contains_get?,contains_get?,get?_insert]
  by_cases same : other = key
  · simp [same]
  · simp [same]

def overwritten (table : Table α) : List (String × α) → List String
  | [] => []
  | (key,value) :: rest =>
    if table.contains key then key :: overwritten (table.insert key value) rest
    else overwritten (table.insert key value) rest

-- A table that holds the keys seen so far is asked for no more than whether a key occurred among them.
theorem overwritten_recurring (seen : List String) (known : ∀ key, table.contains key ↔ key ∈ seen)
    (pairs : List (String × α)) : table.overwritten pairs = recurringAfter seen (pairs.map Prod.fst) := by
  induction pairs generalizing table seen with
  | nil => rfl
  | cons pair rest ih =>
      obtain ⟨key,value⟩ := pair
      have grown : ∀ other, (table.insert key value).contains other ↔ other ∈ seen ++ [key] := by
        intro other
        rw [contains_insert,known,List.mem_append,List.mem_singleton]
        exact or_comm
      rw [List.map_cons,recurringAfter_cons,overwritten,ih _ grown]
      simp only [known]

theorem empty_overwritten (pairs : List (String × α)) :
    (empty : Table α).overwritten pairs = recurring (pairs.map Prod.fst) := by
  have nothing : ∀ key, (empty : Table α).contains key ↔ key ∈ [] := by
    intro key
    simp [contains_get?,get?_empty]
  exact overwritten_recurring [] nothing pairs

end Table

namespace Section

theorem assignAll_events (header : String) (table : Table String) (pairs : List (String × String)) :
    (assignAll header table pairs).2 = (table.overwritten pairs).map (.nameRepeated header) := by
  induction pairs generalizing table with
  | nil => rfl
  | cons pair rest ih =>
      obtain ⟨key,value⟩ := pair
      simp only [assignAll,Table.overwritten,ih]
      split <;> rfl

theorem ofAssignments_events (parts : String × List (String × String)) :
    (ofAssignments parts).2 = (recurring (parts.2.map Prod.fst)).map (.nameRepeated parts.1) := by
  rw [← Table.empty_overwritten]
  exact assignAll_events parts.1 .empty parts.2

end Section

namespace Config

theorem addAll_events (config : Config) (entries : List Section) : (addAll config entries).2 =
    (config.sections.overwritten (entries.map fun entry => (entry.header,entry.assignments))).map .sectionRepeated := by
  induction entries generalizing config with
  | nil => rfl
  | cons entry rest ih =>
      simp only [addAll,List.map_cons,Table.overwritten,ih,insert]
      split <;> rfl

theorem ofSections_events (entries : List Section) :
    (ofSections entries).2 = (recurring (entries.map Section.header)).map .sectionRepeated := by
  have keys : (entries.map fun entry => (entry.header,entry.assignments)).map Prod.fst = entries.map Section.header := by
    rw [List.map_map]
    rfl
  rw [← keys,← Table.empty_overwritten]
  exact addAll_events empty entries

end Config

end CommittedParsing
