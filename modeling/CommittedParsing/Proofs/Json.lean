import CommittedParsing.Json
import CommittedParsing.Proofs.Parser.Language

namespace CommittedParsing

namespace Json

open CommittedParsing.Parser

variable {α β : Type} {after between : List Char → Prop} {write : α → List Char}
variable {rest more : List Char} {close : Char}

-- Where one text is both a value and what comes after it, and another value and what comes after that, the two
-- values are the same. What may come after is restricted: a number ends only where the digits do.
def Readable (after : List Char → Prop) (write : α → List Char) : Prop :=
  ∀ ⦃one other rest more⦄, after rest → after more → write one ++ rest = write other ++ more →
    one = other ∧ rest = more

abbrev Always : List Char → Prop := fun _ => True

section Laws

theorem readable_of_read {read : List Char → Option (α × List Char)}
    (exact : ∀ value rest, after rest → read (write value ++ rest) = some (value,rest)) : Readable after write := by
  intro one other rest more known also same
  have found := exact one rest known
  rw [same,exact other more also] at found
  cases found
  exact ⟨rfl,rfl⟩

theorem readable_injective (readable : Readable after write) {f : β → α}
    (injective : ∀ ⦃one other⦄, f one = f other → one = other) : Readable after fun value => write (f value) := by
  intro one other rest more known also same
  obtain ⟨values,texts⟩ := readable known also same
  exact ⟨injective values,texts⟩

theorem readable_cons (c : Char) (readable : Readable after write) : Readable after fun value => c :: write value := by
  intro one other rest more known also same
  exact readable known also ((List.cons_inj_right c).mp same)

theorem readable_pair {later : β → List Char} (first : Readable between write) (second : Readable after later)
    (ends : ∀ value rest, after rest → between (later value ++ rest)) :
    Readable after fun pair : α × β => write pair.1 ++ later pair.2 := by
  intro one other rest more known also same
  rw [List.append_assoc,List.append_assoc] at same
  obtain ⟨fronts,texts⟩ := first (ends one.2 rest known) (ends other.2 more also) same
  obtain ⟨backs,texts⟩ := second known also texts
  exact ⟨Prod.ext fronts backs,texts⟩

theorem row_ends (item : ∀ value rest, after (write value ++ rest)) (last : ∀ rest, after (close :: rest))
    (values : List α) (rest : List Char) : after (values.flatMap write ++ [close] ++ rest) := by
  cases values with
  | nil => exact last rest
  | cons value values =>
      rw [List.flatMap_cons,List.append_assoc,List.append_assoc]
      exact item value _

theorem readable_row (readable : Readable after write) (item : ∀ value rest, after (write value ++ rest))
    (last : ∀ rest, after (close :: rest)) (opens : ∀ value rest more, write value ++ rest ≠ close :: more) :
    Readable Always fun values : List α => values.flatMap write ++ [close] := by
  intro one
  induction one with
  | nil =>
      intro other rest more _ _ same
      cases other with
      | nil => exact ⟨rfl,(List.cons_inj_right close).mp same⟩
      | cons value values =>
          simp only [List.flatMap_cons,List.append_assoc] at same
          exact absurd same.symm (opens value _ rest)
  | cons value values ih =>
      intro other rest more _ _ same
      cases other with
      | nil =>
          simp only [List.flatMap_cons,List.append_assoc] at same
          exact absurd same (opens value _ more)
      | cons value' values' =>
          simp only [List.flatMap_cons,List.append_assoc (write _)] at same
          obtain ⟨rfl,others⟩ := readable (row_ends item last values rest) (row_ends item last values' more) same
          obtain ⟨rfl,texts⟩ := ih trivial trivial others
          exact ⟨rfl,texts⟩

theorem commas_cons (item : List Char) (items : List (List Char)) :
    commas (item :: items) = item ++ items.flatMap fun item => ',' :: item := by
  induction items generalizing item with
  | nil => simp [commas]
  | cons next items ih => rw [commas.eq_3 item (next :: items) (by simp),ih,List.flatMap_cons,List.cons_append]

theorem readable_commas (readable : Readable after write) (comma : ∀ rest, after (',' :: rest))
    (last : ∀ rest, after (close :: rest)) (apart : close ≠ ',')
    (opens : ∀ value rest more, write value ++ rest ≠ close :: more) :
    Readable Always fun values : List α => commas (values.map write) ++ [close] := by
  have later : Readable Always fun values : List α => (values.flatMap fun value => ',' :: write value) ++ [close] :=
    readable_row (readable_cons ',' readable) (fun value rest => comma _) last fun value rest more same =>
      apart (List.cons.inj same).1.symm
  have whole := readable_pair readable later fun values rest _ => row_ends (fun value rest => comma _) last values rest
  intro one other rest more _ _ same
  cases one with
  | nil =>
      cases other with
      | nil => exact ⟨rfl,(List.cons_inj_right close).mp same⟩
      | cons value values =>
          simp only [List.map_cons,commas_cons,List.append_assoc] at same
          exact absurd same.symm (opens value _ rest)
  | cons value values =>
      cases other with
      | nil =>
          simp only [List.map_cons,commas_cons,List.append_assoc] at same
          exact absurd same (opens value _ more)
      | cons value' values' =>
          simp only [List.map_cons,commas_cons,List.flatMap_map,List.append_assoc (write _)] at same
          obtain ⟨pairs,texts⟩ := @whole (value,values) (value',values') _ _ trivial trivial
            (by simpa only [List.append_assoc] using same)
          cases pairs
          exact ⟨rfl,texts⟩

end Laws

section Texts

def hexValue (c : Char) : Nat := if c.isDigit then c.toNat - '0'.toNat else c.toNat - 'a'.toNat + 10

theorem hexValue_digitChar : ∀ n < 16, hexValue n.digitChar = n := by decide

def letter (c : Char) : Char :=
  if c = 'b' then '\x08' else if c = 'f' then '\x0c' else if c = 'n' then '\n' else if c = 'r' then '\r'
  else if c = 't' then '\t' else c

def unescape : List Char → Option (Char × List Char)
  | [] => none
  | '\\' :: 'u' :: '0' :: '0' :: high :: low :: rest => some (Char.ofNat (16 * hexValue high + hexValue low),rest)
  | '\\' :: c :: rest => some (letter c,rest)
  | c :: rest => some (c,rest)

theorem unescape_escape (c : Char) (rest : List Char) : unescape (escape c ++ rest) = some (c,rest) := by
  unfold escape
  iterate 7
    split
    · next same =>
      subst same
      rfl
  split
  · next control =>
    have high := hexValue_digitChar (c.toNat / 16) (by omega)
    have low := hexValue_digitChar (c.toNat % 16) (by omega)
    have code : 16 * (c.toNat / 16) + c.toNat % 16 = c.toNat := by omega
    simp [unescape,hexByte,high,low,code]
  · next _ backslash _ _ _ _ _ _ =>
    simp [unescape,backslash]

theorem escape_readable : Readable Always escape :=
  readable_of_read fun c rest _ => unescape_escape c rest

theorem escape_opens (c : Char) (rest more : List Char) : escape c ++ rest ≠ '"' :: more := by
  intro same
  have read := unescape_escape c rest
  rw [same] at read
  obtain ⟨rfl,_⟩ : '"' = c ∧ more = rest := by simpa [unescape] using read
  cases same

theorem text_readable : Readable Always text := by
  have row := readable_row escape_readable (fun _ _ => trivial) (fun _ => trivial) escape_opens
  exact readable_injective (readable_cons '"' row) fun one other same => String.ext same

end Texts

section Numbers

theorem stops_comma (rest : List Char) : Stops Char.isDigit (',' :: rest) := stops_cons.mpr (by decide)

theorem number_readable : Readable (Stops Char.isDigit) number := by
  intro one other rest more known also same
  have first : (number one ++ rest).takeWhile Char.isDigit = number one :=
    run_takeWhile (Decimal.spell_digits one) known
  have second : (number other ++ more).takeWhile Char.isDigit = number other :=
    run_takeWhile (Decimal.spell_digits other) also
  rw [same,second] at first
  obtain rfl := Decimal.spell_injective first
  exact ⟨rfl,List.append_cancel_left same⟩

theorem digit_apart {c : Char} (other : c.isDigit = false) (n : Nat) (rest more : List Char) :
    number n ++ rest ≠ c :: more := by
  intro same
  obtain ⟨first,later,spelled⟩ := List.exists_cons_of_ne_nil (Decimal.spell_nonempty n)
  have digit : first.isDigit = true := Decimal.spell_digits n first (spelled ▸ List.mem_cons_self)
  rw [number,spelled] at same
  obtain ⟨rfl,_⟩ := List.cons.inj same
  rw [other] at digit
  cases digit

-- A number is not quoted, so that it is never taken for a text of digits.
theorem tag_readable : Readable (Stops Char.isDigit) ofTag := by
  intro one other rest more known also same
  cases one with
  | number n =>
      cases other with
      | number m =>
          obtain ⟨rfl,texts⟩ := number_readable known also same
          exact ⟨rfl,texts⟩
      | text s => exact absurd same (digit_apart (by decide) n rest _)
  | text t =>
      cases other with
      | number m => exact absurd same.symm (digit_apart (by decide) m more _)
      | text s =>
          obtain ⟨rfl,texts⟩ := text_readable trivial trivial same
          exact ⟨rfl,texts⟩

theorem tag_opens (tag : Tag) (rest more : List Char) : ofTag tag ++ rest ≠ ']' :: more := by
  cases tag with
  | number n => exact digit_apart (by decide) n rest more
  | text s => exact fun same => absurd (List.cons.inj same).1 (by decide)

theorem tags_readable : Readable Always fun tags : List Tag => array (tags.map ofTag) := by
  have items := readable_commas tag_readable stops_comma (fun _ => stops_cons.mpr (by decide)) (by decide) tag_opens
  exact readable_cons '[' items

end Numbers

section Objects

theorem member_readable (readable : Readable after write) :
    Readable after fun entry : String × α => field (entry.1,write entry.2) :=
  readable_pair text_readable (readable_cons ':' readable) fun _ _ _ => trivial

theorem table_readable (readable : Readable Always write) :
    Readable Always fun table : Table α => object (table.entries.map fun entry => (entry.1,write entry.2)) := by
  have opens : ∀ (entry : String × α) rest more, field (entry.1,write entry.2) ++ rest ≠ '\x7d' :: more :=
    fun entry rest more same => absurd (List.cons.inj same).1 (by decide)
  have members := readable_commas (member_readable readable) (fun _ => trivial) (fun _ => trivial) (by decide) opens
  have tables : ∀ ⦃one other : Table α⦄, one.entries = other.entries → one = other := by
    intro one other same
    cases one
    cases other
    cases same
    rfl
  have objects := readable_injective (readable_cons '\x7b' members) tables
  simpa only [object,List.map_map,Function.comp_def,List.cons_append] using objects

theorem config_readable : Readable Always ofConfig := by
  refine readable_injective (table_readable (table_readable text_readable)) fun one other same => ?_
  cases one
  cases other
  cases same
  rfl

theorem member_cancel (readable : Readable after write) {name : String} {one other : α} (known : after rest)
    (also : after more) (same : field (name,write one) ++ rest = field (name,write other) ++ more) :
    one = other ∧ rest = more := by
  obtain ⟨entries,texts⟩ := @member_readable _ _ _ readable (name,one) (name,other) _ _ known also same
  cases entries
  exact ⟨rfl,texts⟩

theorem fraction_readable : Readable Always ofFraction := by
  intro one other rest more _ _ same
  simp only [ofFraction,object,commas,List.map_cons,List.map_nil,List.append_assoc,List.cons_append,
    List.cons.injEq,true_and] at same
  obtain ⟨numerators,same⟩ := member_cancel number_readable (stops_comma _) (stops_comma _) same
  obtain ⟨denominators,texts⟩ := member_cancel number_readable (stops_cons.mpr (by decide)) (stops_cons.mpr (by decide))
    (List.cons.inj same).2
  cases one
  cases other
  cases numerators
  cases denominators
  exact ⟨rfl,(List.cons.inj texts).2⟩

theorem version_readable : Readable Always ofVersion := by
  intro one other rest more _ _ same
  simp only [ofVersion,object,commas,List.map_cons,List.map_nil,List.append_assoc,List.cons_append,
    List.cons.injEq,true_and] at same
  obtain ⟨majors,same⟩ := member_cancel number_readable (stops_comma _) (stops_comma _) same
  obtain ⟨minors,same⟩ := member_cancel number_readable (stops_comma _) (stops_comma _) (List.cons.inj same).2
  obtain ⟨patches,same⟩ := member_cancel number_readable (stops_comma _) (stops_comma _) (List.cons.inj same).2
  obtain ⟨releases,same⟩ := member_cancel tags_readable trivial trivial (List.cons.inj same).2
  obtain ⟨metadata,texts⟩ := member_cancel tags_readable trivial trivial (List.cons.inj same).2
  cases one
  cases other
  cases majors
  cases minors
  cases patches
  cases releases
  cases metadata
  exact ⟨rfl,(List.cons.inj texts).2⟩

end Objects

theorem readable_exact (readable : Readable Always write) (one other : α) :
    String.ofList (write one) = String.ofList (write other) ↔ one = other := by
  constructor
  · intro same
    have texts : write one ++ [] = write other ++ [] := congrArg (· ++ []) (String.ofList_inj.mp same)
    exact (readable trivial trivial texts).1
  · rintro rfl
    rfl

end Json

-- Two values of one kind have the same text exactly when they agree in every field.
theorem json_exact :
    (∀ one other : Version, one.json = other.json ↔
      one.major = other.major ∧ one.minor = other.minor ∧ one.patch = other.patch ∧
        one.release = other.release ∧ one.metadata = other.metadata) ∧
    (∀ one other : Config, one.json = other.json ↔ one = other) ∧
    ∀ one other : Fraction, one.json = other.json ↔
      one.numerator = other.numerator ∧ one.denominator = other.denominator := by
  refine ⟨fun one other => ?_,Json.readable_exact Json.config_readable,fun one other => ?_⟩
  · rw [Version.json,Version.json,Json.readable_exact Json.version_readable]
    cases one
    cases other
    simp only [Version.mk.injEq]
  · rw [Fraction.json,Fraction.json,Json.readable_exact Json.fraction_readable]
    cases one
    cases other
    simp only [Fraction.mk.injEq]

end CommittedParsing
