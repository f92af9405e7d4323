import CommittedParsing.Proofs.Ini.Config
import CommittedParsing.Proofs.Ini.Recurrence
import Mathlib.Data.List.Dedup

namespace CommittedParsing

namespace Table

variable {α : Type} {key : String} {value : α} {entries : List (String × α)}

theorem insertEntry_length (ascending : entries.Pairwise fun a b => a.1 < b.1) : (insertEntry key value entries).length =
    if (entries.lookup key).isSome then entries.length else entries.length + 1 := by
  induction entries with
  | nil => rfl
  | cons entry rest ih =>
      obtain ⟨below,later⟩ := List.pairwise_cons.mp ascending
      obtain ⟨name,old⟩ := entry
      unfold insertEntry
      rw [lookup_cons_exact]
      split
      · next before =>
        have missing : rest.lookup key = none := lookup_above fun entry member => String.lt_trans before (below entry member)
        have apart : key ≠ name := fun same => String.lt_irrefl _ (same ▸ before)
        rw [if_neg apart,missing]
        rfl
      · split
        · rfl
        · rw [List.length_cons,ih later]
          split
          · rfl
          · rfl

theorem size_insert (table : Table α) : (table.insert key value).size =
    if table.contains key then table.size else table.size + 1 := by
  rw [contains_get?,get?_lookup]
  exact insertEntry_length table.ascending

theorem keys_ascending (table : Table α) : table.keys.Pairwise (· < ·) := List.pairwise_map.mpr table.ascending

end Table

namespace Config

open Table

def lastWith? (entries : List Section) (header : String) : Option Section :=
  (entries.filter fun entry => entry.header == header).getLast?

theorem lastWith?_assignments (entries : List Section) (header : String) :
    (lastWith? entries header).map Section.assignments =
      lastOf (entries.map fun entry => (entry.header,entry.assignments)) header := by
  unfold lastWith? lastOf
  rw [List.getLast?_filter,← List.map_reverse,lookup_find?,List.find?_map,Option.map_map]
  rfl

theorem addAll_count (config : Config) (entries : List Section) :
    (addAll config entries).2.length + (addAll config entries).1.size = entries.length + config.size := by
  induction entries generalizing config with
  | nil => rfl
  | cons entry rest ih =>
      have added := ih (config.insert entry)
      have grown : (config.insert entry).size =
          if config.sections.contains entry.header then config.size else config.size + 1 := size_insert config.sections
      unfold addAll
      cases known : config.sections.contains entry.header with
      | true =>
          rw [known,if_pos rfl] at grown
          simp only [if_true,List.length_cons]
          omega
      | false =>
          rw [known,if_neg Bool.false_ne_true] at grown
          simp only [Bool.false_eq_true,if_false,List.length_cons]
          omega

theorem ofSections_headers (entries : List Section) (header : String) :
    header ∈ (ofSections entries).1.headers ↔ header ∈ entries.map Section.header := by
  rw [mem_headers,ofSections_get?,lastOf_isSome]
  simp

theorem ofSections_size (entries : List Section) :
    (ofSections entries).1.size = (entries.map Section.header).dedup.length := by
  have distinct : (ofSections entries).1.headers.Nodup := (keys_ascending _).imp fun less => String.ne_of_lt less
  have same : (ofSections entries).1.headers.Perm (entries.map Section.header).dedup := by
    apply (List.perm_ext_iff_of_nodup distinct (List.nodup_dedup _)).mpr
    intro header
    rw [List.mem_dedup]
    exact ofSections_headers entries header
  have width : (ofSections entries).1.headers.length = (ofSections entries).1.size := by
    unfold headers keys
    exact List.length_map Prod.fst
  rw [← width,same.length_eq]

theorem ofSections_append (entries others : List Section) (header : String) :
    (ofSections (entries ++ others)).1.get? header =
      if header ∈ (ofSections others).1.headers then (ofSections others).1.get? header
      else (ofSections entries).1.get? header := by
  have joined : (ofSections (entries ++ others)).1.get? header =
      ((ofSections others).1.get? header).or ((ofSections entries).1.get? header) := by
    rw [ofSections_get?,ofSections_get?,ofSections_get?,List.map_append,lastOf_append]
  rw [joined]
  by_cases replaced : header ∈ (ofSections others).1.headers
  · obtain ⟨assignments,found⟩ := Option.isSome_iff_exists.mp (mem_headers.mp replaced)
    rw [if_pos replaced,found]
    rfl
  · have missing := Option.not_isSome_iff_eq_none.mp fun found => replaced (mem_headers.mpr found)
    rw [if_neg replaced,missing]
    rfl

structure Collects (entries : List Section) (config : Config) (events : List Event) : Prop where
  ascending : config.headers.Pairwise (· < ·)
  headers : ∀ header, header ∈ config.headers ↔ header ∈ entries.map Section.header
  size : config.size = (entries.map Section.header).dedup.length
  sections : ∀ header, config.get? header = (lastWith? entries header).map Section.assignments
  values : ∀ header name, config.value? header name =
    (lastWith? entries header).bind fun entry => entry.assignments.get? name
  reports : events = (recurring (entries.map Section.header)).map .sectionRepeated
  count : events.length + config.size = entries.length

-- Of the sections with one header the last counts, each one before it is told of once, and sections that are added
-- later replace those with their headers.
theorem ofSections_collects (entries others : List Section) :
    Collects entries (ofSections entries).1 (ofSections entries).2 ∧
    ∀ config, (ofSections (entries ++ others)).1 = config ↔ ∀ header, config.get? header =
      if header ∈ (ofSections others).1.headers then (ofSections others).1.get? header
      else (ofSections entries).1.get? header := by
  have found : ∀ header, (ofSections entries).1.get? header = (lastWith? entries header).map Section.assignments := by
    intro header
    rw [ofSections_get?,lastWith?_assignments]
  refine ⟨⟨keys_ascending _,ofSections_headers entries,ofSections_size entries,found,?_,ofSections_events entries,
    addAll_count empty entries⟩,?_⟩
  · intro header name
    rw [value?,found,Option.bind_map]
    rfl
  · intro config
    constructor
    · intro same header
      rw [← same]
      exact ofSections_append entries others header
    · intro looks
      apply config_ext
      intro header
      rw [looks,ofSections_append]

end Config

end CommittedParsing
