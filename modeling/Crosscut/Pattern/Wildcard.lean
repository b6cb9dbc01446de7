/-! Wildcard patterns over dotted names. A star stands for any run of characters inside one
segment. Two dots stand for any number of whole segments: a single dot, or a run that starts and
ends with one. Every other character stands for itself. Dots are paired from the left. -/
namespace Crosscut.Wildcard

/-- One element of a wildcard pattern. -/
inductive Element where
  | segments
  | run
  | exactly (c : Char)
deriving DecidableEq, Repr

def elements : List Char → List Element
  | [] => []
  | '.' :: '.' :: rest => .segments :: elements rest
  | '*' :: rest => .run :: elements rest
  | c :: rest => .exactly c :: elements rest

/-- Whether some later part of a text, cut right after a dot, passes a test. -/
def afterDot (test : List Char → Bool) : List Char → Bool
  | [] => false
  | c :: rest => (c == '.' && test rest) || afterDot test rest

/-- Whether a text passes a test after some of its leading characters other than dots have been
left out. -/
def afterRun (test : List Char → Bool) : List Char → Bool
  | [] => test []
  | c :: rest => test (c :: rest) || (c != '.' && afterRun test rest)

/-- Whether a text is made of pieces that fit the elements in order. -/
def accepts : List Element → List Char → Bool
  | [], text => text.isEmpty
  | .segments :: more, text => text.head? == some '.' && afterDot (fun rest => accepts more rest) text
  | .run :: more, text => afterRun (fun rest => accepts more rest) text
  | .exactly _ :: _, [] => false
  | .exactly c :: more, d :: text => c == d && accepts more text

def fits (pattern text : String) : Bool :=
  accepts (elements pattern.toList) text.toList

/-- The tests of the parts after a dot. -/
theorem afterDot_iff {test : List Char → Bool} {text : List Char} :
    afterDot test text = true ↔ ∃ before rest, text = before ++ '.' :: rest ∧ test rest = true := by
  induction text with
  | nil => simp [afterDot]
  | cons c tail ih =>
    simp only [afterDot, Bool.or_eq_true, Bool.and_eq_true, beq_iff_eq, ih]
    constructor
    · rintro (⟨rfl, passed⟩ | ⟨before, rest, rfl, passed⟩)
      · exact ⟨[], tail, rfl, passed⟩
      · exact ⟨c :: before, rest, rfl, passed⟩
    · rintro ⟨before, rest, cut, passed⟩
      cases before with
      | nil =>
        obtain ⟨rfl, rfl⟩ := List.cons.inj cut
        exact Or.inl ⟨rfl, passed⟩
      | cons first before =>
        obtain ⟨rfl, rfl⟩ := List.cons.inj cut
        exact Or.inr ⟨before, rest, rfl, passed⟩

/-- The tests after a run inside one segment. -/
theorem afterRun_iff {test : List Char → Bool} {text : List Char} :
    afterRun test text = true ↔
      ∃ run rest, text = run ++ rest ∧ '.' ∉ run ∧ test rest = true := by
  induction text with
  | nil =>
    simp only [afterRun]
    constructor
    · exact fun passed => ⟨[], [], rfl, by simp, passed⟩
    · rintro ⟨run, rest, cut, -, passed⟩
      obtain ⟨rfl, rfl⟩ := List.append_eq_nil_iff.mp cut.symm
      exact passed
  | cons c tail ih =>
    simp only [afterRun, Bool.or_eq_true, Bool.and_eq_true, bne_iff_ne, ih]
    constructor
    · rintro (passed | ⟨other, run, rest, rfl, free, passed⟩)
      · exact ⟨[], c :: tail, rfl, by simp, passed⟩
      · exact ⟨c :: run, rest, rfl, by simp [free, Ne.symm other], passed⟩
    · rintro ⟨run, rest, cut, free, passed⟩
      cases run with
      | nil => exact Or.inl (cut ▸ passed)
      | cons first run =>
        obtain ⟨rfl, rfl⟩ := List.cons.inj cut
        simp only [List.mem_cons, not_or] at free
        exact Or.inr ⟨fun equal => free.1 equal.symm, run, rest, rfl, free.2, passed⟩

end Crosscut.Wildcard
