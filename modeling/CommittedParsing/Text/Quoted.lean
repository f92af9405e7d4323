import CommittedParsing.Text.Unprintable

namespace CommittedParsing.Text

def escapeCodePoint (c : Char) : List Char := ['\\','u','\x7b'] ++ Nat.toDigits 16 c.toNat ++ ['\x7d']

def escapeIn (quote c : Char) : List Char :=
  if c = '\x00' then ['\\','0']
  else if c = '\t' then ['\\','t']
  else if c = '\r' then ['\\','r']
  else if c = '\n' then ['\\','n']
  else if c = '\\' then ['\\','\\']
  else if c = quote then ['\\',quote]
  else if isUnprintable c then escapeCodePoint c
  else [c]

def quoteWith (quote : Char) (text : List Char) : List Char := quote :: text.flatMap (escapeIn quote) ++ [quote]

def quotedChar (c : Char) : String := String.ofList (quoteWith '\'' [c])

def quotedText (text : String) : String := String.ofList (quoteWith '"' text.toList)

theorem hexDigit_not_feed (n : Nat) : '\n' ∉ Nat.toDigits 16 n := by
  induction n using Nat.strongRecOn with
  | ind n ih =>
      rw [Nat.toDigits_eq_if (by omega)]
      have digit : ∀ d < 16, '\n' ≠ d.digitChar := by decide
      split
      · next small => exact fun member => digit n small (List.mem_singleton.mp member)
      · next large =>
        simp only [List.mem_append,List.mem_singleton,not_or]
        exact ⟨ih _ (by omega),digit _ (by omega)⟩

theorem escapeIn_not_feed (quote c : Char) (outer : quote ≠ '\n') : '\n' ∉ escapeIn quote c := by
  simp only [escapeIn]
  repeat' split
  all_goals try decide
  · simp [Ne.symm outer]
  · simp [escapeCodePoint,hexDigit_not_feed]
  · next feed _ _ _ => simp [Ne.symm feed]

theorem quoteWith_not_feed (quote : Char) (text : List Char) (outer : quote ≠ '\n') :
    '\n' ∉ quoteWith quote text := by
  simp only [quoteWith,List.mem_append,List.mem_cons,List.mem_flatMap,List.not_mem_nil,or_false,not_or,not_exists]
  exact ⟨⟨Ne.symm outer,fun c both => escapeIn_not_feed quote c outer both.2⟩,Ne.symm outer⟩

theorem quotedChar_not_feed (c : Char) : '\n' ∉ (quotedChar c).toList := by
  simpa only [quotedChar,String.toList_ofList] using quoteWith_not_feed '\'' [c] (by decide)

theorem quotedText_not_feed (text : String) : '\n' ∉ (quotedText text).toList := by
  simpa only [quotedText,String.toList_ofList] using quoteWith_not_feed '"' text.toList (by decide)

end CommittedParsing.Text
