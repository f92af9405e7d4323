import CommittedParsing.Proofs.Text.ByteOrder
import CommittedParsing.Version.Basic

namespace CommittedParsing

namespace Tag

-- Numbers by value, texts by their bytes, every number below every text.
inductive Below : Tag → Tag → Prop where
  | numbers {a b : Nat} : a < b → Below (.number a) (.number b)
  | mixed (a : Nat) (b : String) : Below (.number a) (.text b)
  | texts {a b : String} : Text.bytes a < Text.bytes b → Below (.text a) (.text b)

-- The first list stops where the second goes on, or has the lower tag where they first differ.
inductive ListBelow : List Tag → List Tag → Prop where
  | shorter (front : List Tag) (tag : Tag) (more : List Tag) : ListBelow front (front ++ tag :: more)
  | differing (front : List Tag) {a b : Tag} (more others : List Tag) : Below a b →
      ListBelow (front ++ a :: more) (front ++ b :: others)

-- A release comes before a finished version; of two releases the lower list comes first.
def ReleaseBelow (as bs : List Tag) : Prop := as ≠ [] ∧ (bs = [] ∨ bs ≠ [] ∧ ListBelow as bs)

theorem compare_below (a b : Tag) : compare a b = .lt ↔ Below a b := by
  cases a with
  | number n =>
      cases b with
      | number m =>
          rw [compare,Nat.compare_eq_lt]
          constructor
          · exact .numbers
          · rintro (less | _ | _)
            exact less
      | text t => exact ⟨fun _ => .mixed n t,fun _ => rfl⟩
  | text s =>
      cases b with
      | number m => exact ⟨nofun,nofun⟩
      | text t =>
          rw [compare,Text.compare_bytes]
          constructor
          · exact .texts
          · rintro (_ | _ | less)
            exact less

instance : Std.OrientedCmp compare where
  eq_swap {a b} := by
    cases a with
    | number n =>
        cases b with
        | number m => exact Std.OrientedOrd.eq_swap
        | text t => rfl
    | text s =>
        cases b with
        | number m => rfl
        | text t => exact Std.OrientedOrd.eq_swap

instance : Std.TransCmp compare where
  isLE_trans {a b c} first second := by
    cases a with
    | number n =>
        cases b with
        | number m =>
            cases c with
            | number k => exact Std.TransOrd.isLE_trans first second
            | text u => rfl
        | text t =>
            cases c with
            | number k => cases second
            | text u => rfl
    | text s =>
        cases b with
        | number m => cases first
        | text t =>
            cases c with
            | number k => cases second
            | text u => exact Std.TransOrd.isLE_trans first second

instance : Std.LawfulEqCmp compare where
  compare_self {a} := by
    cases a with
    | number n => exact Std.ReflOrd.compare_self
    | text s => exact Std.ReflOrd.compare_self
  eq_of_compare {a b} level := by
    cases a with
    | number n =>
        cases b with
        | number m => exact congrArg Tag.number (Std.LawfulEqOrd.eq_of_compare level)
        | text t => cases level
    | text s =>
        cases b with
        | number m => cases level
        | text t => exact congrArg Tag.text (Std.LawfulEqOrd.eq_of_compare level)

theorem compareLists_lexicographic : compareLists = List.compareLex compare := by
  funext as bs
  induction as generalizing bs with
  | nil => cases bs <;> rfl
  | cons a as ih =>
      cases bs with
      | nil => rfl
      | cons b bs =>
          rw [compareLists,List.compareLex_cons_cons,ih]

instance : Std.TransCmp compareLists := compareLists_lexicographic ▸ inferInstance
instance : Std.LawfulEqCmp compareLists := compareLists_lexicographic ▸ inferInstance

theorem compareLists_front (front as bs : List Tag) :
    compareLists (front ++ as) (front ++ bs) = compareLists as bs := by
  induction front with
  | nil => rfl
  | cons tag front ih =>
      have level : compare tag tag = .eq := Std.ReflCmp.compare_self
      rw [List.cons_append,List.cons_append,compareLists,level,Ordering.eq_then,ih]

theorem listBelow_cons {as bs : List Tag} (tag : Tag) (below : ListBelow as bs) :
    ListBelow (tag :: as) (tag :: bs) := by
  cases below with
  | shorter _ next more => exact .shorter (tag :: as) next more
  | differing front more others lower => exact .differing (tag :: front) more others lower

theorem compareLists_below (as bs : List Tag) : compareLists as bs = .lt ↔ ListBelow as bs := by
  constructor
  · intro less
    induction as generalizing bs with
    | nil =>
        cases bs with
        | nil => cases less
        | cons b bs => exact .shorter [] b bs
    | cons a as ih =>
        cases bs with
        | nil => cases less
        | cons b bs =>
            rcases Ordering.then_eq_lt.mp less with lower | ⟨level,later⟩
            · exact .differing [] as bs ((compare_below a b).mp lower)
            · cases Std.LawfulEqCmp.eq_of_compare level
              exact listBelow_cons a (ih bs later)
  · intro below
    cases below with
    | shorter _ tag more =>
        have lengthened := compareLists_front as [] (tag :: more)
        rwa [List.append_nil] at lengthened
    | @differing front a b more others lower =>
        rw [compareLists_front,compareLists,(compare_below a b).mpr lower]
        rfl

theorem compareReleases_lexicographic :
    compareReleases = compareLex (compareOn List.isEmpty) compareLists := by
  funext as bs
  cases as with
  | nil => cases bs <;> rfl
  | cons a as => cases bs <;> rfl

instance : Std.TransCmp compareReleases := compareReleases_lexicographic ▸ inferInstance

instance : Std.LawfulEqCmp compareReleases where
  compare_self {as} := Std.ReflCmp.compare_self
  eq_of_compare {as bs} level := by
    rw [compareReleases_lexicographic,compareLex,Ordering.then_eq_eq] at level
    exact Std.LawfulEqCmp.eq_of_compare level.2

theorem compareReleases_below (as bs : List Tag) :
    compareReleases as bs = .lt ↔ ReleaseBelow as bs := by
  cases as with
  | nil =>
      cases bs with
      | nil => exact ⟨nofun,fun below => absurd rfl below.1⟩
      | cons b bs => exact ⟨nofun,fun below => absurd rfl below.1⟩
  | cons a as =>
      cases bs with
      | nil => exact ⟨fun _ => ⟨nofun,.inl rfl⟩,fun _ => rfl⟩
      | cons b bs =>
          rw [compareReleases,compareLists_below]
          constructor
          · intro below
            exact ⟨nofun,.inr ⟨nofun,below⟩⟩
          · rintro ⟨_,none | ⟨_,below⟩⟩
            · cases none
            · exact below

end Tag

namespace Version

def Below (a b : Version) : Prop :=
  a.major < b.major ∨ a.major = b.major ∧ (a.minor < b.minor ∨ a.minor = b.minor ∧
    (a.patch < b.patch ∨ a.patch = b.patch ∧ Tag.ReleaseBelow a.release b.release))

instance : Std.TransCmp compare :=
  inferInstanceAs (Std.TransCmp (compareLex (compareOn major) (compareLex (compareOn minor)
    (compareLex (compareOn patch) (Ordering.byKey release Tag.compareReleases)))))

theorem compare_level (a b : Version) : a.compare b = .eq ↔
    a.major = b.major ∧ a.minor = b.minor ∧ a.patch = b.patch ∧ a.release = b.release := by
  simp only [compare,Ordering.then_eq_eq,Std.LawfulEqCmp.compare_eq_iff_eq]

theorem compare_below (a b : Version) : a.compare b = .lt ↔ Below a b := by
  simp only [compare,Below,Ordering.then_eq_lt,Nat.compare_eq_lt,Nat.compare_eq_eq,
    Tag.compareReleases_below]

theorem below_release {a b : Version} (major : a.major = b.major) (minor : a.minor = b.minor)
    (patch : a.patch = b.patch) : Below a b ↔ Tag.ReleaseBelow a.release b.release := by
  simp only [Below,major,minor,patch,Nat.lt_irrefl,false_or,true_and]

-- A total preorder whose levels are the versions that differ in metadata at most; the first number that differs
-- decides, and among versions of the same numbers it goes by the releases.
theorem compare_precedence (a b c : Version) :
    b.compare a = (a.compare b).swap ∧
    (a.compare b ≠ .gt → b.compare c ≠ .gt → a.compare c ≠ .gt ∧
      (a.compare b = .lt ∨ b.compare c = .lt → a.compare c = .lt)) ∧
    (a.compare b = .eq ↔ a.samePrecedence b = true) ∧
    (a.samePrecedence b = true ↔
      a.major = b.major ∧ a.minor = b.minor ∧ a.patch = b.patch ∧ a.release = b.release) ∧
    (∀ tags others : List Tag,
      { a with metadata := tags }.compare { b with metadata := others } = a.compare b) ∧
    (a.compare b = .lt ↔ Below a b) ∧
    (a.major = b.major → a.minor = b.minor → a.patch = b.patch →
      (a.compare b = .lt ↔ Tag.ReleaseBelow a.release b.release)) := by
  have same : a.compare b = .eq ↔ a.samePrecedence b = true := beq_iff_eq.symm
  have level := same.symm.trans (compare_level a b)
  have below := compare_below a b
  refine ⟨Std.OrientedCmp.eq_swap,?_,same,level,fun _ _ => rfl,below,?_⟩
  · intro first second
    replace first := Ordering.isLE_iff_ne_gt.mpr first
    replace second := Ordering.isLE_iff_ne_gt.mpr second
    refine ⟨Ordering.isLE_iff_ne_gt.mp (Std.TransCmp.isLE_trans first second),?_⟩
    rintro (less | less)
    · exact Std.TransCmp.lt_of_lt_of_isLE less second
    · exact Std.TransCmp.lt_of_isLE_of_lt first less
  · intro major minor patch
    exact below.trans (below_release major minor patch)

-- From a first release to a longer one to the finished version, and so from the first to the last. The next number
-- comes after a finished version even in a first release, and numbers are not compared as texts.
theorem alpha_precedence :
    (Version.mk 1 0 0 [.text "alpha"] []).compare (.mk 1 0 0 [.text "alpha",.number 1] []) = .lt ∧
    (Version.mk 1 0 0 [.text "alpha",.number 1] []).compare (.mk 1 0 0 [] [.text "build"]) = .lt ∧
    (Version.mk 1 0 0 [.text "alpha"] []).compare (.mk 1 0 0 [] [.text "build"]) = .lt ∧
    (Version.mk 1 9 3 [] []).compare (.mk 1 10 0 [.text "alpha"] []) = .lt ∧
    (Version.mk 1 10 0 [] []).compare (.mk 2 0 0 [.text "alpha"] []) = .lt := by
  obtain ⟨_,chain,_,_,_,_,lengthened⟩ := compare_precedence (.mk 1 0 0 [.text "alpha"] [])
    (.mk 1 0 0 [.text "alpha",.number 1] []) (.mk 1 0 0 [] [.text "build"])
  obtain ⟨_,_,_,_,_,_,released⟩ := compare_precedence (.mk 1 0 0 [.text "alpha",.number 1] [])
    (.mk 1 0 0 [] [.text "build"]) (.mk 1 0 0 [] [])
  obtain ⟨_,_,_,_,_,minor,_⟩ := compare_precedence (.mk 1 9 3 [] []) (.mk 1 10 0 [.text "alpha"] []) (.mk 1 0 0 [] [])
  obtain ⟨_,_,_,_,_,major,_⟩ := compare_precedence (.mk 1 10 0 [] []) (.mk 2 0 0 [.text "alpha"] []) (.mk 1 0 0 [] [])
  have first := (lengthened rfl rfl rfl).mpr
    ⟨List.cons_ne_nil _ _,.inr ⟨List.cons_ne_nil _ _,.shorter [.text "alpha"] (.number 1) []⟩⟩
  have second := (released rfl rfl rfl).mpr ⟨List.cons_ne_nil _ _,.inl rfl⟩
  have whole := (chain (by simp [first]) (by simp [second])).2 (.inl first)
  have tenth := minor.mpr (.inr ⟨rfl,.inl (by decide)⟩)
  have next := major.mpr (.inl (by decide))
  exact ⟨first,second,whole,tenth,next⟩

end Version

end CommittedParsing
