import CommittedParsing.Ini.Config
import CommittedParsing.Proofs.Ini.Table

namespace CommittedParsing

open Table

namespace Section

theorem assignAll_get? (header name : String) (table : Table String) (pairs : List (String × String)) :
    (assignAll header table pairs).1.get? name = (lastOf pairs name).or (table.get? name) := by
  induction pairs generalizing table with
  | nil => rfl
  | cons pair rest ih =>
      obtain ⟨key,value⟩ := pair
      have step : (assignAll header table ((key,value) :: rest)).1 = (assignAll header (table.insert key value) rest).1 :=
        rfl
      rw [step,ih,get?_insert,lastOf_cons]

theorem ofAssignments_get? (parts : String × List (String × String)) (name : String) :
    (ofAssignments parts).1.assignments.get? name = lastOf parts.2 name := by
  have made : (ofAssignments parts).1.assignments = (assignAll parts.1 .empty parts.2).1 := rfl
  rw [made,assignAll_get?,get?_empty,Option.or_none]

end Section

namespace Config

abbrev Written := String × List (String × String)

-- The configuration has exactly the headers that are written, and under each of them the last value of each
-- name in the last section with that header.
structure Denotes (config : Config) (sections : List Written) : Prop where
  headers : ∀ header, header ∈ config.headers ↔ ∃ pairs, (header,pairs) ∈ sections
  values : ∀ header name, config.value? header name = (lastOf sections header).bind fun pairs => lastOf pairs name

theorem mem_headers {config : Config} {header : String} : header ∈ config.headers ↔ (config.get? header).isSome := mem_keys

theorem config_ext {one other : Config} (same : ∀ header, one.get? header = other.get? header) : one = other := by
  have tables : one.sections = other.sections := table_ext same
  cases one
  cases other
  cases tables
  rfl

theorem addAll_get? (config : Config) (header : String) (entries : List Section) :
    (addAll config entries).1.get? header =
      (lastOf (entries.map fun entry => (entry.header,entry.assignments)) header).or (config.get? header) := by
  induction entries generalizing config with
  | nil => rfl
  | cons entry rest ih =>
      have step : (addAll config (entry :: rest)).1 = (addAll (config.insert entry) rest).1 := rfl
      have inserted : (config.insert entry).get? header =
          if header = entry.header then some entry.assignments else config.get? header := get?_insert
      rw [step,ih,inserted,List.map_cons,lastOf_cons]

theorem ofSections_get? (entries : List Section) (header : String) :
    (ofSections entries).1.get? header =
      lastOf (entries.map fun entry => (entry.header,entry.assignments)) header := by
  rw [ofSections,addAll_get?]
  exact Option.or_none

def sectionOf (entry : Written) : Section := (Section.ofAssignments entry).1

def ofWritten (sections : List Written) : Config := (ofSections (sections.map sectionOf)).1

theorem ofWritten_get? (sections : List Written) (header : String) :
    (ofWritten sections).get? header =
      (lastOf sections header).map fun pairs => (Section.ofAssignments (header,pairs)).1.assignments := by
  rw [ofWritten,ofSections_get?,List.map_map,lastOf,lastOf,← List.map_reverse]
  exact lookup_map (fun entry => (sectionOf entry).assignments) header sections.reverse

theorem ofWritten_append (first second : List Written) (header : String) :
    (ofWritten (first ++ second)).get? header =
      ((ofWritten second).get? header).or ((ofWritten first).get? header) := by
  rw [ofWritten_get?,ofWritten_get?,ofWritten_get?,lastOf_append,Option.map_or]

theorem ofWritten_denotes (sections : List Written) : (ofWritten sections).Denotes sections where
  headers := by
    intro header
    rw [← lastOf_isSome,mem_headers,ofWritten_get?,Option.isSome_map]
  values := by
    intro header name
    rw [value?,ofWritten_get?]
    cases lastOf sections header with
    | none => rfl
    | some pairs => exact Section.ofAssignments_get? (header,pairs) name

theorem denotes_unique {one other : Config} {sections : List Written} (first : one.Denotes sections)
    (second : other.Denotes sections) : one = other := by
  apply config_ext
  intro header
  have both : (one.get? header).isSome ↔ (other.get? header).isSome := by
    rw [← mem_headers,← mem_headers]
    exact (first.headers header).trans (second.headers header).symm
  cases left : one.get? header with
  | none =>
      rw [left] at both
      cases right : other.get? header with
      | none => rfl
      | some table =>
          rw [right] at both
          cases both.mpr rfl
  | some table =>
      rw [left] at both
      obtain ⟨table',right⟩ := Option.isSome_iff_exists.mp (both.mp rfl)
      rw [right]
      refine congrArg some (table_ext fun name => ?_)
      have value : one.value? header name = other.value? header name :=
        (first.values header name).trans (second.values header name).symm
      rwa [value?,value?,left,right] at value

theorem denotes_exact (config : Config) (sections : List Written) :
    config.Denotes sections ↔ ofWritten sections = config := by
  constructor
  · intro denotes
    exact denotes_unique (ofWritten_denotes sections) denotes
  · intro same
    exact same ▸ ofWritten_denotes sections

end Config

end CommittedParsing
