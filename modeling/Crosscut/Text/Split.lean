import Crosscut.Text.Blank

/-! Cutting text: trimming, splitting at separators, and the last segment of a dotted name. All
cuts work on lists of characters; the forms on strings at the end are the ones that names and
attribute texts use. Cutting loses nothing but the separators. -/
namespace Crosscut.Text

def trimChars (cs : List Char) : List Char :=
  ((cs.dropWhile isBlank).reverse.dropWhile isBlank).reverse

/-- The parts between separators, one more than there are separators. -/
def parts (isSeparator : Char → Bool) : List Char → List (List Char)
  | [] => [[]]
  | c :: rest =>
    if isSeparator c then [] :: parts isSeparator rest
    else match parts isSeparator rest with
      | [] => [[c]]
      | part :: more => (c :: part) :: more

/-- The runs of characters that are not white space. -/
def words (cs : List Char) : List (List Char) :=
  (parts isBlank cs).filter (!·.isEmpty)

/-- The trimmed items of a comma-separated list. A blank text lists nothing. -/
def items (cs : List Char) : List (List Char) :=
  match trimChars cs with
  | [] => []
  | text => (parts (· == ',') text).map trimChars

/-- What stands before and after the last occurrence of a separator. -/
def cutLast (separator : Char) : List Char → Option (List Char × List Char)
  | [] => none
  | c :: rest =>
    match cutLast separator rest with
    | some (before, after) => some (c :: before, after)
    | none => if c == separator then some ([], rest) else none

/-- What stands after the last occurrence of a separator, or the whole text without one. -/
def afterLast (separator : Char) (cs : List Char) : List Char :=
  match cutLast separator cs with
  | some (_, after) => after
  | none => cs

/-- The number of bytes of a text in UTF-8. -/
def byteLength : List Char → Nat
  | [] => 0
  | c :: rest => c.utf8Size + byteLength rest

/-- A string without the white space at its ends. -/
def trim (s : String) : String :=
  String.ofList (trimChars s.toList)

/-- Whether a string holds nothing but white space. -/
def isBlankText (s : String) : Bool :=
  s.toList.all isBlank

def simpleName (name : String) : String :=
  String.ofList (afterLast '.' name.toList)

/-- Whether a name has more than one segment. -/
def isQualified (name : String) : Bool :=
  name.toList.contains '.'

theorem parts_ne_nil (isSeparator : Char → Bool) (cs : List Char) : parts isSeparator cs ≠ [] := by
  induction cs with
  | nil => simp [parts]
  | cons c rest ih =>
    simp only [parts]
    split
    · simp
    · split <;> simp

/-- The cut leaves out exactly one separator, and the part after it holds none. -/
theorem cutLast_eq_some {separator : Char} {cs before after : List Char}
    (cut : cutLast separator cs = some (before, after)) :
    cs = before ++ separator :: after ∧ separator ∉ after := by
  induction cs generalizing before with
  | nil => simp [cutLast] at cut
  | cons c rest ih =>
    simp only [cutLast] at cut
    split at cut
    · rename_i front back inner
      cases cut
      exact ⟨congrArg (c :: ·) (ih inner).1, (ih inner).2⟩
    · rename_i uncut
      split at cut
      · rename_i same
        cases cut
        refine ⟨by simpa using same, fun member => ?_⟩
        have found : ∀ text : List Char, separator ∈ text → cutLast separator text ≠ none := by
          intro text
          induction text with
          | nil => simp
          | cons d tail ihTail =>
            intro inside
            simp only [cutLast]
            split
            · simp
            · rename_i stopped
              rcases List.mem_cons.mp inside with rfl | later
              · simp
              · exact absurd stopped (ihTail later)
        exact found _ member uncut
      · cases cut

/-- Only a text without the separator cannot be cut. -/
theorem cutLast_eq_none {separator : Char} {cs : List Char} :
    cutLast separator cs = none ↔ separator ∉ cs := by
  induction cs with
  | nil => simp [cutLast]
  | cons c rest ih =>
    simp only [cutLast]
    split
    · rename_i front back inner
      have shape := (cutLast_eq_some inner).1
      simp [shape]
    · rename_i uncut
      have absent := ih.mp uncut
      by_cases same : c = separator
      · simp [same]
      · simp [same, absent, Ne.symm same]

/-- A text is cut at a separator with no other behind it. -/
theorem cutLast_append {separator : Char} {after : List Char} (last : separator ∉ after)
    (before : List Char) : cutLast separator (before ++ separator :: after) = some (before, after) := by
  induction before with
  | nil => simp [cutLast, cutLast_eq_none.mpr last]
  | cons c rest ih => simp [cutLast, ih]

/-- The last segment is a single one. -/
theorem not_mem_afterLast (separator : Char) (cs : List Char) : separator ∉ afterLast separator cs := by
  unfold afterLast
  split
  · rename_i cut
    exact (cutLast_eq_some cut).2
  · rename_i uncut
    exact cutLast_eq_none.mp uncut

/-- A simple name has one segment. -/
theorem isQualified_simpleName (name : String) : isQualified (simpleName name) = false := by
  have single := not_mem_afterLast '.' name.toList
  simpa [isQualified, simpleName] using single

/-- A name of one segment is a simple name. -/
theorem simpleName_of_unqualified {name : String} (plain : isQualified name = false) :
    simpleName name = name := by
  have single : '.' ∉ name.toList := by simpa [isQualified] using plain
  rw [simpleName, afterLast, cutLast_eq_none.mpr single]
  exact String.ofList_toList

end Crosscut.Text
