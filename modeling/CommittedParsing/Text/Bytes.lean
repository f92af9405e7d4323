namespace CommittedParsing.Text

def byteLength : List Char → Nat
  | [] => 0
  | c :: rest => c.utf8Size + byteLength rest

-- The longest run of whole characters at the front that fits into `n` bytes.
def takeBytes : Nat → List Char → List Char
  | _, [] => []
  | n, c :: rest => if c.utf8Size ≤ n then c :: takeBytes (n - c.utf8Size) rest else []

def dropBytes : Nat → List Char → List Char
  | _, [] => []
  | n, c :: rest => if c.utf8Size ≤ n then dropBytes (n - c.utf8Size) rest else c :: rest

-- Offset `n` lies between two characters, or at an end, of the text.
def isBoundary (n : Nat) (text : List Char) : Bool := byteLength (takeBytes n text) == n

def slice? (start stop : Nat) (text : List Char) : Option (List Char) :=
  if start ≤ stop ∧ isBoundary start text ∧ isBoundary stop text then
    some (takeBytes (stop - start) (dropBytes start text))
  else none

@[simp] theorem byteLength_nil : byteLength [] = 0 := rfl
@[simp] theorem byteLength_cons (c : Char) (rest : List Char) :
    byteLength (c :: rest) = c.utf8Size + byteLength rest := rfl

@[simp] theorem byteLength_append (front back : List Char) :
    byteLength (front ++ back) = byteLength front + byteLength back := by
  induction front with
  | nil => simp
  | cons c rest ih => simp [ih,Nat.add_assoc]

theorem byteLength_positive (c : Char) (rest : List Char) : 0 < byteLength (c :: rest) := by
  have := c.utf8Size_pos
  simp only [byteLength_cons]
  omega

theorem byteLength_zero {text : List Char} : byteLength text = 0 ↔ text = [] := by
  cases text with
  | nil => simp
  | cons c rest =>
      have := byteLength_positive c rest
      simp only [reduceCtorEq,iff_false]
      omega

@[simp] theorem takeBytes_zero (text : List Char) : takeBytes 0 text = [] := by
  cases text with
  | nil => rfl
  | cons c rest =>
      have := c.utf8Size_pos
      simp only [takeBytes]
      rw [if_neg (by omega)]

@[simp] theorem dropBytes_zero (text : List Char) : dropBytes 0 text = text := by
  cases text with
  | nil => rfl
  | cons c rest =>
      have := c.utf8Size_pos
      simp only [dropBytes]
      rw [if_neg (by omega)]

theorem takeBytes_dropBytes (n : Nat) (text : List Char) : takeBytes n text ++ dropBytes n text = text := by
  induction text generalizing n with
  | nil => rfl
  | cons c rest ih =>
      simp only [takeBytes,dropBytes]
      split
      · simp [ih]
      · simp

theorem takeBytes_append (front back : List Char) (n : Nat) :
    takeBytes (byteLength front + n) (front ++ back) = front ++ takeBytes n back := by
  induction front with
  | nil => simp
  | cons c rest ih =>
      simp only [byteLength_cons,List.cons_append,takeBytes]
      rw [if_pos (by omega),show c.utf8Size + byteLength rest + n - c.utf8Size = byteLength rest + n by omega,ih]

theorem dropBytes_append (front back : List Char) (n : Nat) :
    dropBytes (byteLength front + n) (front ++ back) = dropBytes n back := by
  induction front with
  | nil => simp
  | cons c rest ih =>
      simp only [byteLength_cons,List.cons_append,dropBytes]
      rw [if_pos (by omega),show c.utf8Size + byteLength rest + n - c.utf8Size = byteLength rest + n by omega,ih]

@[simp] theorem takeBytes_front (front back : List Char) : takeBytes (byteLength front) (front ++ back) = front := by
  simpa using takeBytes_append front back 0

@[simp] theorem dropBytes_front (front back : List Char) : dropBytes (byteLength front) (front ++ back) = back := by
  simpa using dropBytes_append front back 0

theorem isBoundary_exact (n : Nat) (text : List Char) :
    isBoundary n text = true ↔ ∃ front back, text = front ++ back ∧ n = byteLength front := by
  simp only [isBoundary,beq_iff_eq]
  constructor
  · intro fits
    exact ⟨takeBytes n text,dropBytes n text,(takeBytes_dropBytes n text).symm,fits.symm⟩
  · rintro ⟨front,back,rfl,rfl⟩
    simp

theorem slice?_exact (start stop : Nat) (text part : List Char) :
    slice? start stop text = some part ↔
      ∃ front back, text = front ++ part ++ back ∧ start = byteLength front ∧ stop = byteLength (front ++ part) := by
  simp only [slice?]
  constructor
  · intro cut
    split at cut
    · next valid =>
      obtain ⟨ordered,first,second⟩ := valid
      obtain ⟨front,tail,rfl,rfl⟩ := (isBoundary_exact _ _).mp first
      simp only [dropBytes_front,Option.some.injEq] at cut
      obtain ⟨whole,back,split,rfl⟩ := (isBoundary_exact _ _).mp second
      have inner : whole = front ++ takeBytes (byteLength whole - byteLength front) tail := by
        have taken := takeBytes_append front tail (byteLength whole - byteLength front)
        rw [Nat.add_sub_cancel' ordered,split,takeBytes_front] at taken
        exact taken
      rw [cut] at inner
      exact ⟨front,back,by rw [split,inner],rfl,by rw [inner]⟩
    · cases cut
  · rintro ⟨front,back,rfl,rfl,rfl⟩
    rw [if_pos]
    · simp
    · refine ⟨by simp,(isBoundary_exact _ _).mpr ⟨front,part ++ back,by simp,rfl⟩,?_⟩
      exact (isBoundary_exact _ _).mpr ⟨front ++ part,back,rfl,rfl⟩

theorem isBoundary_append (front text : List Char) (n : Nat) :
    isBoundary (byteLength front + n) (front ++ text) = isBoundary n text := by
  rw [Bool.eq_iff_iff]
  simp only [isBoundary,takeBytes_append,byteLength_append,beq_iff_eq,Nat.add_left_cancel_iff]

theorem slice?_append (front text : List Char) (start stop : Nat) :
    slice? (byteLength front + start) (byteLength front + stop) (front ++ text) = slice? start stop text := by
  simp only [slice?,isBoundary_append,dropBytes_append,Nat.add_sub_add_left,Nat.add_le_add_iff_left]

theorem byteSize_ofList (text : List Char) : (String.ofList text).utf8ByteSize = byteLength text := by
  induction text with
  | nil => simp
  | cons c rest ih =>
      rw [String.ofList_cons]
      simp [ih]

theorem byteSize_toList (text : String) : text.utf8ByteSize = byteLength text.toList := by
  rw [← byteSize_ofList,String.ofList_toList]

end CommittedParsing.Text
