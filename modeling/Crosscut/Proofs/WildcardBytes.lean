import Crosscut.Proofs.WildcardPieces

/-! Matching on bytes. A text is kept in UTF-8, and a matcher may walk over the bytes of a pattern
and of a text without looking at characters: dots and stars have one byte each that is part of no
other character. A star may then stop inside a character, but nothing other than a further star
goes on there. So matching bytes accepts exactly the texts that are made of whole characters. -/
namespace Crosscut.WildcardBytes
open Wildcard WildcardPieces

/-- The bytes of a text. -/
def utf8 (cs : List Char) : List UInt8 :=
  cs.flatMap String.utf8EncodeChar

/-- What is left of a text behind each of its dots. -/
def pastDots : List UInt8 → List (List UInt8)
  | [] => []
  | b :: rest => if b = 46 then rest :: pastDots rest else pastDots rest

/-- What is left of a text behind each run that ends before its first dot. -/
def pastRuns : List UInt8 → List (List UInt8)
  | [] => [[]]
  | b :: rest => (b :: rest) :: if b = 46 then [] else pastRuns rest

/-- Whether the bytes of a text fit those of a pattern. A dot is 46 and a star is 42. -/
def bytesFit : List UInt8 → List UInt8 → Bool
  | [], text => text.isEmpty
  | 46 :: 46 :: rest, text => text.head? == some 46 && (pastDots text).any fun left => bytesFit rest left
  | 42 :: rest, text => (pastRuns text).any fun left => bytesFit rest left
  | b :: rest, text => text.head? == some b && bytesFit rest text.tail

/-! ### Matching by bytes -/

theorem mem_pastDots {text rest : List UInt8} :
    rest ∈ pastDots text ↔ ∃ before, text = before ++ 46 :: rest := by
  induction text with
  | nil => simp [pastDots]
  | cons b tail ih =>
    rw [pastDots]
    split
    · rename_i isDot
      subst isDot
      rw [List.mem_cons, ih]
      constructor
      · rintro (rfl | ⟨before, rfl⟩)
        · exact ⟨[], rfl⟩
        · exact ⟨46 :: before, rfl⟩
      · rintro ⟨before, cut⟩
        cases before with
        | nil => exact .inl (List.cons.inj cut).2.symm
        | cons first before => exact .inr ⟨before, (List.cons.inj cut).2⟩
    · rename_i other
      rw [ih]
      constructor
      · rintro ⟨before, rfl⟩
        exact ⟨b :: before, rfl⟩
      · rintro ⟨before, cut⟩
        cases before with
        | nil => exact absurd (List.cons.inj cut).1 other
        | cons first before => exact ⟨before, (List.cons.inj cut).2⟩

theorem mem_pastRuns {text rest : List UInt8} :
    rest ∈ pastRuns text ↔ ∃ run, text = run ++ rest ∧ 46 ∉ run := by
  induction text with
  | nil =>
    simp only [pastRuns, List.mem_singleton]
    constructor
    · rintro rfl
      exact ⟨[], rfl, by simp⟩
    · rintro ⟨run, cut, -⟩
      exact (List.append_eq_nil_iff.mp cut.symm).2
  | cons b tail ih =>
    rw [pastRuns, List.mem_cons]
    constructor
    · rintro (rfl | later)
      · exact ⟨[], rfl, by simp⟩
      · split at later
        · cases later
        · rename_i other
          obtain ⟨run, rfl, free⟩ := ih.mp later
          exact ⟨b :: run, rfl, by simp [free, Ne.symm other]⟩
    · rintro ⟨run, cut, free⟩
      cases run with
      | nil => exact .inl cut.symm
      | cons first run =>
        obtain ⟨rfl, rfl⟩ := List.cons.inj cut
        simp only [List.mem_cons, not_or] at free
        rw [if_neg (Ne.symm free.1)]
        exact .inr (ih.mpr ⟨run, rfl, free.2⟩)

theorem bytesFit_nil {text : List UInt8} : bytesFit [] text = true ↔ text = [] := by
  rw [bytesFit, List.isEmpty_iff]

theorem bytesFit_dots {rest text : List UInt8} :
    bytesFit (46 :: 46 :: rest) text = true ↔
      text.head? = some 46 ∧ ∃ before left, text = before ++ 46 :: left ∧ bytesFit rest left = true := by
  rw [bytesFit, Bool.and_eq_true, beq_iff_eq, List.any_eq_true]
  simp only [mem_pastDots]
  grind

theorem bytesFit_star {rest text : List UInt8} :
    bytesFit (42 :: rest) text = true ↔
      ∃ run left, text = run ++ left ∧ 46 ∉ run ∧ bytesFit rest left = true := by
  rw [bytesFit, List.any_eq_true]
  simp only [mem_pastRuns]
  grind

/-- Any other byte stands for itself, and so does a dot without a second one. -/
theorem bytesFit_byte {b : UInt8} {rest text : List UInt8} (noStar : b ≠ 42)
    (single : b = 46 → rest.head? ≠ some 46) :
    bytesFit (b :: rest) text = true ↔ ∃ left, text = b :: left ∧ bytesFit rest left = true := by
  rw [bytesFit]
  · cases text with
    | nil => simp
    | cons first left => simp
  · rintro tail rfl rfl
    exact single rfl rfl
  · exact noStar

/-! ### Bytes of characters -/

theorem utf8_cons (c : Char) (cs : List Char) : utf8 (c :: cs) = String.utf8EncodeChar c ++ utf8 cs :=
  List.flatMap_cons

theorem utf8_append (front back : List Char) : utf8 (front ++ back) = utf8 front ++ utf8 back :=
  List.flatMap_append

/-- The first byte of a character tells that one starts, and no other byte does. -/
theorem exists_of_utf8EncodeChar (c : Char) :
    ∃ b more, String.utf8EncodeChar c = b :: more ∧ b.IsUTF8FirstByte ∧
      ∀ d ∈ more, ¬ d.IsUTF8FirstByte := by
  have starts : ∀ (i : Nat) (inside : i < (String.utf8EncodeChar c).length),
      (String.utf8EncodeChar c)[i].IsUTF8FirstByte ↔ i = 0 :=
    fun i inside => UInt8.isUTF8FirstByte_getElem_utf8EncodeChar
  obtain ⟨b, more, parts⟩ := List.exists_cons_of_ne_nil (String.utf8EncodeChar_ne_nil (c := c))
  rw [parts] at starts
  refine ⟨b, more, parts, (starts 0 (by simp)).mpr rfl, fun d member => ?_⟩
  obtain ⟨i, inside, rfl⟩ := List.mem_iff_getElem.mp member
  have later := starts (i + 1) (by simpa using inside)
  rw [List.getElem_cons_succ] at later
  exact fun first => Nat.succ_ne_zero i (later.mp first)

/-- Bytes that start with those of a character are those of a text that starts with it. -/
theorem starts_of_utf8 {c : Char} {text : List Char} {left : List UInt8}
    (cut : utf8 text = String.utf8EncodeChar c ++ left) :
    ∃ rest, text = c :: rest ∧ left = utf8 rest := by
  have encoded : List.utf8Encode [c] ++ left.toByteArray = List.utf8Encode text := by
    rw [List.utf8Encode_singleton, ← List.toByteArray_append, ← cut]
    rfl
  obtain ⟨rest, rfl⟩ := List.isPrefix_of_utf8Encode_append_eq_utf8Encode _ encoded
  rw [List.singleton_append, utf8_cons] at cut
  exact ⟨rest, rfl, (List.append_cancel_left cut).symm⟩

theorem starts_of_utf8_dot {text : List Char} {left : List UInt8} (cut : utf8 text = 46 :: left) :
    ∃ rest, text = '.' :: rest ∧ left = utf8 rest := by
  have encoded : utf8 text = String.utf8EncodeChar '.' ++ left := cut
  exact starts_of_utf8 encoded

/-- A cut through the bytes of a text goes through at most one character. The bytes of it that are
left over start none. -/
theorem exists_cut {text : List Char} {front back : List UInt8} (cut : utf8 text = front ++ back) :
    ∃ before behind broken, text = before ++ behind ∧ utf8 before = front ++ broken ∧
      back = broken ++ utf8 behind ∧ ∀ b ∈ broken, ¬ b.IsUTF8FirstByte := by
  induction text generalizing front with
  | nil =>
    obtain ⟨rfl, rfl⟩ := List.append_eq_nil_iff.mp cut.symm
    exact ⟨[], [], [], rfl, rfl, rfl, by simp⟩
  | cons c rest ih =>
    rw [utf8_cons] at cut
    rcases List.append_eq_append_iff.mp cut with ⟨inner, rfl, behind⟩ | ⟨broken, whole, rfl⟩
    · obtain ⟨before, later, broken, rfl, parts, left, inside⟩ := ih behind
      refine ⟨c :: before, later, broken, rfl, ?_, left, inside⟩
      rw [utf8_cons, parts, List.append_assoc]
    · cases front with
      | nil =>
        rw [List.nil_append] at whole
        exact ⟨[], c :: rest, [], rfl, rfl, by rw [utf8_cons, whole, List.nil_append], by simp⟩
      | cons first front =>
        refine ⟨[c], rest, broken, rfl, by simpa [utf8] using whole, rfl, fun b member => ?_⟩
        obtain ⟨d, more, parts, -, later⟩ := exists_of_utf8EncodeChar c
        obtain ⟨rfl, rfl⟩ := List.cons.inj (parts.symm.trans whole)
        exact later b (List.mem_append_right front member)

theorem dot_first : (46 : UInt8).IsUTF8FirstByte := by decide

/-- A cut in front of the byte of a dot is a cut in front of a dot. -/
theorem exists_cut_dot {text : List Char} {front left : List UInt8}
    (cut : utf8 text = front ++ 46 :: left) :
    ∃ before behind, text = before ++ '.' :: behind ∧ utf8 before = front ∧ left = utf8 behind := by
  obtain ⟨before, behind, broken, rfl, parts, later, inside⟩ := exists_cut cut
  cases broken with
  | nil =>
    obtain ⟨rest, rfl, same⟩ := starts_of_utf8_dot later.symm
    exact ⟨before, rest, rfl, by simpa using parts, same⟩
  | cons b more =>
    obtain ⟨rfl, -⟩ := List.cons.inj later
    exact absurd dot_first (inside 46 List.mem_cons_self)

/-- The byte of a dot belongs to no other character. -/
theorem mem_utf8_dot {text : List Char} : 46 ∈ utf8 text ↔ '.' ∈ text := by
  constructor
  · intro member
    obtain ⟨front, left, cut⟩ := List.append_of_mem member
    obtain ⟨before, behind, rfl, -⟩ := exists_cut_dot cut
    simp
  · intro member
    exact List.mem_flatMap.mpr ⟨'.', member, by decide⟩

/-! ### Matching characters by their bytes -/

/-- Bytes that start no character stand for themselves. -/
theorem bytesFit_broken {more rest text : List UInt8} (inside : ∀ b ∈ more, ¬ b.IsUTF8FirstByte) :
    bytesFit (more ++ rest) text = true ↔ ∃ left, text = more ++ left ∧ bytesFit rest left = true := by
  induction more generalizing text with
  | nil => simp
  | cons b more ih =>
    obtain ⟨here, later⟩ := List.forall_mem_cons.mp inside
    have noStar : b ≠ 42 := by
      rintro rfl
      exact here (by decide)
    have noDot : b ≠ 46 := by
      rintro rfl
      exact here dot_first
    rw [List.cons_append, bytesFit_byte noStar fun same => absurd same noDot]
    constructor
    · rintro ⟨behind, rfl, fit⟩
      obtain ⟨left, rfl, fits⟩ := (ih later).mp fit
      exact ⟨left, rfl, fits⟩
    · rintro ⟨left, rfl, fit⟩
      exact ⟨more ++ left, rfl, (ih later).mpr ⟨left, rfl, fit⟩⟩

/-- A character that is no wildcard stands for its bytes. -/
theorem bytesFit_char {c : Char} {pattern : List Char} {text : List UInt8} (noStar : c ≠ '*')
    (single : c = '.' → pattern.head? ≠ some '.') :
    bytesFit (utf8 (c :: pattern)) text = true ↔
      ∃ left, text = String.utf8EncodeChar c ++ left ∧ bytesFit (utf8 pattern) left = true := by
  obtain ⟨b, more, parts, -, inside⟩ := exists_of_utf8EncodeChar c
  have alone : utf8 [c] = b :: more := by rw [utf8_cons, parts]; exact List.append_nil _
  rw [utf8_cons, parts, List.cons_append, bytesFit_byte]
  · simp only [bytesFit_broken inside]
    constructor
    · rintro ⟨_, rfl, left, rfl, fit⟩
      exact ⟨left, rfl, fit⟩
    · rintro ⟨left, rfl, fit⟩
      exact ⟨more ++ left, rfl, left, rfl, fit⟩
  · rintro rfl
    have star : utf8 [c] = String.utf8EncodeChar '*' ++ more := alone
    obtain ⟨rest, same, -⟩ := starts_of_utf8 star
    exact noStar (List.cons.inj same).1
  · rintro rfl paired
    obtain ⟨rest, same, rfl⟩ := starts_of_utf8_dot alone
    obtain ⟨rfl, rfl⟩ := List.cons.inj same
    obtain ⟨left, whole⟩ := List.head?_eq_some_iff.mp paired
    obtain ⟨others, rfl, -⟩ := starts_of_utf8_dot whole
    exact single rfl rfl

/-- Nothing of a character is left over where one starts. -/
theorem unbroken_of_starts {broken bytes : List UInt8} {b : UInt8}
    (inside : ∀ d ∈ broken, ¬ d.IsUTF8FirstByte) (first : b.IsUTF8FirstByte)
    (starts : (broken ++ bytes).head? = some b) : broken = [] := by
  cases broken with
  | nil => rfl
  | cons d more =>
    cases starts
    exact absurd first (inside b List.mem_cons_self)

/-- Bytes fit only if the characters do. What a star has left over of a character fits nothing but
a further star, which takes it as well. -/
theorem accepts_of_bytesFit {pattern text : List Char} {broken : List UInt8}
    (inside : ∀ b ∈ broken, ¬ b.IsUTF8FirstByte)
    (fit : bytesFit (utf8 pattern) (broken ++ utf8 text) = true) :
    accepts (elements pattern) text = true := by
  have whole : ∀ b ∈ ([] : List UInt8), ¬ b.IsUTF8FirstByte := by simp
  fun_induction elements pattern generalizing text broken with
  | case1 =>
    obtain ⟨-, nothing⟩ := List.append_eq_nil_iff.mp (bytesFit_nil.mp fit)
    cases text with
    | nil => rfl
    | cons c rest => simp [utf8_cons, String.utf8EncodeChar_ne_nil] at nothing
  | case2 pattern ih =>
    obtain ⟨starts, front, left, cut, fit⟩ := bytesFit_dots.mp fit
    obtain rfl := unbroken_of_starts inside dot_first starts
    obtain ⟨before, behind, rfl, rfl, rfl⟩ := exists_cut_dot cut
    rw [List.nil_append, utf8_append] at starts
    rw [accepts, Bool.and_eq_true, beq_iff_eq, afterDot_iff]
    refine ⟨?_, before, behind, rfl, ih whole fit⟩
    cases before with
    | nil => rfl
    | cons c more =>
      obtain ⟨others, same⟩ := List.head?_eq_some_iff.mp starts
      rw [← utf8_append] at same
      obtain ⟨rest, whole, -⟩ := starts_of_utf8_dot same
      rw [whole, List.head?_cons]
  | case3 pattern ih =>
    obtain ⟨run, left, cut, free, fit⟩ := bytesFit_star.mp fit
    rw [accepts, afterRun_iff]
    rcases List.append_eq_append_iff.mp cut with ⟨inner, rfl, inText⟩ | ⟨more, rfl, rfl⟩
    · -- The run ends in the text: the characters that it has touched make up the run.
      obtain ⟨before, behind, broken, rfl, parts, rfl, later⟩ := exists_cut inText
      refine ⟨before, behind, rfl, fun member => ?_, ih later fit⟩
      rcases List.mem_append.mp (parts ▸ mem_utf8_dot.mpr member) with inRun | inBroken
      · exact free (List.mem_append_right _ inRun)
      · exact later 46 inBroken dot_first
    · -- The run ends in what another star has left over: the next star takes that on.
      exact ⟨[], text, rfl, by simp,
        ih (fun b member => inside b (List.mem_append_right _ member)) fit⟩
  | case4 c pattern single noStar ih =>
    have unpaired : c = '.' → pattern.head? ≠ some '.' := by
      rintro rfl paired
      obtain ⟨rest, rfl⟩ := List.head?_eq_some_iff.mp paired
      exact single rest rfl rfl
    obtain ⟨left, cut, fit⟩ := (bytesFit_char noStar unpaired).mp fit
    obtain ⟨b, more, parts, first, -⟩ := exists_of_utf8EncodeChar c
    obtain rfl := unbroken_of_starts inside first (by rw [cut, parts]; rfl)
    obtain ⟨rest, rfl, rfl⟩ := starts_of_utf8 cut
    rw [accepts, beq_self_eq_true, Bool.true_and]
    exact ih whole fit

/-- If the characters fit, so do their bytes. -/
theorem bytesFit_of_accepts {pattern text : List Char}
    (accepted : accepts (elements pattern) text = true) :
    bytesFit (utf8 pattern) (utf8 text) = true := by
  fun_induction elements pattern generalizing text with
  | case1 =>
    rw [accepts, List.isEmpty_iff] at accepted
    subst accepted
    rfl
  | case2 pattern ih =>
    rw [accepts, Bool.and_eq_true, beq_iff_eq, afterDot_iff] at accepted
    obtain ⟨starts, before, rest, rfl, accepted⟩ := accepted
    refine bytesFit_dots.mpr ⟨?_, utf8 before, utf8 rest, utf8_append _ _, ih accepted⟩
    obtain ⟨others, whole⟩ := List.head?_eq_some_iff.mp starts
    rw [whole]
    rfl
  | case3 pattern ih =>
    rw [accepts, afterRun_iff] at accepted
    obtain ⟨run, rest, rfl, free, accepted⟩ := accepted
    exact bytesFit_star.mpr
      ⟨utf8 run, utf8 rest, utf8_append _ _, mt mem_utf8_dot.mp free, ih accepted⟩
  | case4 c pattern single noStar ih =>
    have unpaired : c = '.' → pattern.head? ≠ some '.' := by
      rintro rfl paired
      obtain ⟨rest, rfl⟩ := List.head?_eq_some_iff.mp paired
      exact single rest rfl rfl
    cases text with
    | nil => cases accepted
    | cons d rest =>
      rw [accepts, Bool.and_eq_true, beq_iff_eq] at accepted
      obtain ⟨rfl, accepted⟩ := accepted
      exact (bytesFit_char noStar unpaired).mpr ⟨utf8 rest, utf8_cons _ _, ih accepted⟩

/-- Matching the bytes of a text is matching its characters. -/
theorem bytesFit_utf8 (pattern text : List Char) :
    bytesFit (utf8 pattern) (utf8 text) = accepts (elements pattern) text := by
  have whole : ∀ b ∈ ([] : List UInt8), ¬ b.IsUTF8FirstByte := by simp
  rw [Bool.eq_iff_iff]
  exact ⟨accepts_of_bytesFit whole, bytesFit_of_accepts⟩

/-- The bytes of a string are those of its characters. -/
theorem utf8_toList (s : String) : s.toUTF8.data.toList = utf8 s.toList := by
  rw [String.toUTF8_eq_toByteArray, ← String.utf8Encode_toList]
  exact List.toList_data_toByteArray

/-- On any strings, a pattern and a text match by their bytes exactly when the text is made of
pieces, whole characters, that the elements of the pattern stand for in order. Comparing characters
gives the same answer. -/
theorem strings_match_by_pieces (pattern text : String) :
    (bytesFit pattern.toUTF8.data.toList text.toUTF8.data.toList = true ↔
        Pieced (elements pattern.toList) text.toList) ∧
      fits pattern text = bytesFit pattern.toUTF8.data.toList text.toUTF8.data.toList := by
  rw [utf8_toList, utf8_toList, bytesFit_utf8]
  exact ⟨accepts_iff_pieced, rfl⟩

end Crosscut.WildcardBytes
