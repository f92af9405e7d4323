import CommittedParsing.Proofs.Ini.Reports

namespace CommittedParsing.Ini

open CommittedParsing.Parser CommittedParsing.Lexeme

theorem gap_listed {c : Char} : isGap c = false ↔ c ∉ [' ','\n',';','#'] := by
  unfold isGap isBlank isMarker
  simp [and_assoc]

section Skipped

variable {source : String} {cursor stop : Cursor} {gap front back : List Char}

theorem skipTrivia_covers (reached : Cursor.Reached source cursor) (ran : Succeeds skipTrivia cursor () stop)
    (ahead : cursor.rest = front ++ back) (trivia : Trivia front back) : ∃ more, cursor.Reads (front ++ more) stop := by
  obtain ⟨middle,passed,behind⟩ := Cursor.reads_front ahead
  have onward := Cursor.reads_reached reached passed
  obtain ⟨_,farther,further⟩ := halts_never skipTrivia_halts onward
  obtain ⟨more,later,others,stops⟩ := (skipTrivia_accepts onward).mp further
  rw [← behind,later.2.1] at trivia
  have whole := Cursor.reads_trans passed later
  have skipped : Succeeds skipTrivia cursor () farther :=
    (skipTrivia_accepts reached).mpr ⟨_,whole,trivia_append trivia others,stops⟩
  obtain ⟨_,rfl⟩ := succeeds_unique ran skipped
  exact ⟨more,whole⟩

theorem skipTrivia_within (reached : Cursor.Reached source cursor) (ran : Succeeds skipTrivia cursor () stop)
    (passed : cursor.Reads gap stop) (ahead : cursor.rest = front ++ back) (trivia : Trivia front back) :
    front <+: gap := by
  obtain ⟨more,covered⟩ := skipTrivia_covers reached ran ahead trivia
  obtain ⟨same,_⟩ := Cursor.reads_unique passed covered rfl
  exact ⟨more,same.symm⟩

theorem skipTrivia_stays (reached : Cursor.Reached source stop) (stops : Stops isGap stop.rest) :
    Succeeds skipTrivia stop () stop :=
  (skipTrivia_accepts reached).mpr ⟨[],Cursor.reads_refl stop,trivia_nil,stops⟩

end Skipped

-- From every place trivia is skipped: the longest that comes next, so that there is none left to skip.
theorem skipTrivia_maximal {source : String} {cursor : Cursor} (reached : Cursor.Reached source cursor) :
    ∃ gap stop, skipTrivia.run cursor = .success () stop ∧ cursor.Reads gap stop ∧ Trivia gap stop.rest ∧
      (∀ c, stop.rest.head? = some c → c ∉ [' ','\n',';','#']) ∧
      (∀ front back, cursor.rest = front ++ back → Trivia front back → front <+: gap) ∧
      skipTrivia.run stop = .success () stop := by
  obtain ⟨_,stop,ran⟩ := halts_never skipTrivia_halts reached
  obtain ⟨gap,passed,trivia,stops⟩ := (skipTrivia_accepts reached).mp ran
  have again := skipTrivia_stays (Cursor.reads_reached reached passed) stops
  refine ⟨gap,stop,quiet_success skipTrivia_quiet ran,passed,trivia,?_,?_,quiet_success skipTrivia_quiet again⟩
  · intro c first
    exact gap_listed.mp (stops c first)
  · intro front back ahead other
    exact skipTrivia_within reached ran passed ahead other

theorem nested_markers_maximal : Cursor.Reached "x ;[#\n#b" ⟨"x ;[#\n#b",1," ;[#\n#b".toList⟩ ∧
    Succeeds skipTrivia ⟨"x ;[#\n#b",1," ;[#\n#b".toList⟩ () ⟨"x ;[#\n#b",8,[]⟩ ∧ Trivia " ;[#\n#b".toList [] ∧
    Succeeds skipTrivia ⟨"x ;[#\n#b",8,[]⟩ () ⟨"x ;[#\n#b",8,[]⟩ := by
  have reached : Cursor.Reached "x ;[#\n#b" ⟨"x ;[#\n#b",1," ;[#\n#b".toList⟩ := by
    apply Cursor.Reached.advance .start (c := 'x')
    rfl
  have ran : Succeeds skipTrivia ⟨"x ;[#\n#b",1," ;[#\n#b".toList⟩ () ⟨"x ;[#\n#b",8,[]⟩ := by decide +kernel
  obtain ⟨gap,stop,skipped,passed,trivia,_,_,again⟩ := skipTrivia_maximal reached
  obtain ⟨_,rfl⟩ := succeeds_unique ran (congrArg Reply.outcome skipped)
  have whole : gap = " ;[#\n#b".toList := (List.append_nil gap).symm.trans passed.2.1.symm
  rw [whole] at trivia
  exact ⟨reached,ran,trivia,congrArg Reply.outcome again⟩

end CommittedParsing.Ini
