import CommittedParsing.Proofs.Ini.Halting
import CommittedParsing.Proofs.Parser.Rotation

namespace CommittedParsing.Ini

open CommittedParsing.Parser CommittedParsing.Lexeme

theorem section_padding (source : String) : Padding source skipTrivia sectionBody where
  skipping := by
    have composed : Composed .everything skipTrivia := skipTrivia_composed
    exact composed_onward composed
  onward := by
    have composed : Composed .everything sectionBody := sectionBody_composed
    exact composed_onward composed
  skips := by
    intro cursor reached
    obtain ⟨value,stop,ran⟩ := halts_never skipTrivia_halts reached
    exact ⟨stop,value,ran⟩
  advances := by
    intro cursor value stop reached ran
    exact accepts_further sectionBody_accepts sectionBody_nonempty reached ran

-- Repeated sections with trivia in front of each are a document that ends with its last section, and conversely.
theorem document_refines {source : String} {cursor : Cursor} (reached : Cursor.Reached source cursor) :
    (∀ sections stop, Succeeds (many1 paddedSection) cursor sections stop →
      Succeeds document cursor (Config.ofSections sections).1 stop) ∧
    ∀ config stop, Succeeds document cursor config stop → LastEndsAt skipTrivia sectionBody cursor stop →
      ∃ sections, Succeeds (many1 paddedSection) cursor sections stop ∧ (Config.ofSections sections).1 = config := by
  have padding := section_padding source
  constructor
  · intro sections stop ran
    obtain ⟨trailing,_⟩ := (many1_rotates padding reached).mp ran
    exact mapReporting_succeeds.mpr ⟨sections,trailing,rfl⟩
  · intro config stop ran last
    obtain ⟨sections,trailing,made⟩ := mapReporting_succeeds.mp ran
    exact ⟨sections,(many1_rotates padding reached).mpr ⟨trailing,last⟩,made⟩

theorem commented_sections_refined :
    ∃ one other config stop, Succeeds (many1 paddedSection) (Cursor.start "[a]x=1\n;c\n[b]y=2") [one,other] stop ∧
      LastEndsAt skipTrivia sectionBody (Cursor.start "[a]x=1\n;c\n[b]y=2") stop ∧
      Succeeds document (Cursor.start "[a]x=1\n;c\n[b]y=2") config stop ∧
      (Config.ofSections [one,other]).1 = config ∧ config.headers = ["a","b"] ∧ config.value? "a" "x" = some "1" ∧
      config.value? "b" "y" = some "2" ∧ stop.position = 16 := by
  let text := "[a]x=1\n;c\n[b]y=2"
  let one := Config.sectionOf ("a",[("x","1")])
  let other := Config.sectionOf ("b",[("y","2")])
  have leading : Succeeds (many1 paddedSection) (Cursor.start text) [one,other] ⟨text,16,[]⟩ := by decide +kernel
  have opened : Succeeds skipTrivia (Cursor.start text) () (Cursor.start text) := by decide +kernel
  have first : Succeeds (sectionBody.left skipTrivia) (Cursor.start text) one ⟨text,10,"[b]y=2".toList⟩ := by
    decide +kernel
  have second : Succeeds sectionBody ⟨text,10,"[b]y=2".toList⟩ other ⟨text,16,[]⟩ := by decide +kernel
  have last : LastEndsAt skipTrivia sectionBody (Cursor.start text) ⟨text,16,[]⟩ :=
    ⟨_,[one],_,other,⟨(),opened⟩,.cons first (by decide) .nil,second⟩
  have refined := document_refines (.start : Cursor.Reached text (Cursor.start text))
  have whole := refined.1 _ _ leading
  obtain ⟨sections,again,made⟩ := refined.2 _ _ whole last
  obtain ⟨rfl,_⟩ := succeeds_unique leading again
  exact ⟨one,other,_,_,leading,last,whole,made,by decide,by decide,by decide,rfl⟩

end CommittedParsing.Ini
