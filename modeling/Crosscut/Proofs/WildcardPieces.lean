import Crosscut.Pattern.Wildcard
import Crosscut.Text.Split
import Mathlib.Data.List.Forall2

/-! The language of wildcard patterns. A pattern accepts the texts that are made of pieces, one for
each of its elements in order: a dotted run for two dots, a run inside one segment for a star, and
for every other character the character itself. Patterns written one behind the other accept the
texts of the one followed by those of the other, and a pattern without dots at the end can only
start behind the last dot of a text. -/
namespace Crosscut.WildcardPieces
open Wildcard

/-- The texts that an element stands for. Two dots stand for a single dot, which is the first and
the last character of its text, or for a longer text that starts and ends with one. -/
def Covers : Element → List Char → Prop
  | .segments, piece => piece.head? = some '.' ∧ piece.getLast? = some '.'
  | .run, piece => '.' ∉ piece
  | .exactly c, piece => piece = [c]

/-- A text is made of pieces that elements stand for. -/
def Pieced (es : List Element) (text : List Char) : Prop :=
  ∃ pieces, List.Forall₂ Covers es pieces ∧ pieces.flatten = text

variable {e : Element} {es fs : List Element} {text : List Char}

theorem pieced_nil : Pieced [] text ↔ text = [] := by
  constructor
  · rintro ⟨pieces, fit, rfl⟩
    rw [List.forall₂_nil_left_iff.mp fit, List.flatten_nil]
  · rintro rfl
    exact ⟨[], .nil, rfl⟩

/-- The piece of the first element comes first. -/
theorem pieced_cons :
    Pieced (e :: es) text ↔ ∃ piece rest, text = piece ++ rest ∧ Covers e piece ∧ Pieced es rest := by
  constructor
  · rintro ⟨pieces, fit, rfl⟩
    obtain ⟨piece, more, covers, behind, rfl⟩ := List.forall₂_cons_left_iff.mp fit
    exact ⟨piece, more.flatten, rfl, covers, more, behind, rfl⟩
  · rintro ⟨piece, _, rfl, covers, more, behind, rfl⟩
    exact ⟨piece :: more, .cons covers behind, rfl⟩

/-- The texts of two patterns in a row are a text of the one and a text of the other. -/
theorem pieced_append :
    Pieced (es ++ fs) text ↔
      ∃ front back, text = front ++ back ∧ Pieced es front ∧ Pieced fs back := by
  induction es generalizing text with
  | nil =>
    constructor
    · exact fun pieced => ⟨[], text, rfl, pieced_nil.mpr rfl, pieced⟩
    · rintro ⟨front, back, rfl, nothing, pieced⟩
      rwa [pieced_nil.mp nothing]
  | cons e more ih =>
    rw [List.cons_append, pieced_cons]
    constructor
    · rintro ⟨piece, rest, rfl, covers, pieced⟩
      obtain ⟨front, back, rfl, inFront, behind⟩ := ih.mp pieced
      refine ⟨piece ++ front, back, (List.append_assoc ..).symm, ?_, behind⟩
      exact pieced_cons.mpr ⟨piece, front, rfl, covers, inFront⟩
    · rintro ⟨_, back, rfl, inFront, behind⟩
      obtain ⟨piece, front, rfl, covers, pieced⟩ := pieced_cons.mp inFront
      refine ⟨piece, front ++ back, List.append_assoc .., covers, ?_⟩
      exact ih.mpr ⟨front, back, rfl, pieced, behind⟩

/-- The texts that two dots stand for: they start with a dot, and a dot ends them. -/
theorem pieced_segments :
    Pieced (.segments :: es) text ↔
      text.head? = some '.' ∧ ∃ before rest, text = before ++ '.' :: rest ∧ Pieced es rest := by
  rw [pieced_cons]
  constructor
  · rintro ⟨piece, rest, rfl, ⟨first, last⟩, pieced⟩
    obtain ⟨before, rfl⟩ := List.getLast?_eq_some_iff.mp last
    refine ⟨?_, before, rest, by simp, pieced⟩
    rw [List.head?_append, first, Option.some_or]
  · rintro ⟨first, before, rest, rfl, pieced⟩
    refine ⟨before ++ ['.'], rest, by simp, ⟨?_, by simp⟩, pieced⟩
    cases before with
    | nil => rfl
    | cons c more => exact first

/-- Acceptance is exactly the language of pieces. -/
theorem accepts_iff_pieced : accepts es text = true ↔ Pieced es text := by
  -- The text that is left changes from element to element.
  induction es generalizing text with
  | nil => rw [accepts, List.isEmpty_iff, pieced_nil]
  | cons e more ih =>
    cases e with
    | segments =>
      rw [accepts, Bool.and_eq_true, beq_iff_eq, afterDot_iff, pieced_segments]
      simp only [ih]
    | run =>
      rw [accepts, afterRun_iff, pieced_cons]
      simp only [ih, Covers]
    | exactly c =>
      rw [pieced_cons]
      cases text with
      | nil => simp [accepts, Covers]
      | cons d rest =>
        rw [accepts, Bool.and_eq_true, beq_iff_eq, ih]
        constructor
        · rintro ⟨rfl, pieced⟩
          exact ⟨[c], rest, rfl, rfl, pieced⟩
        · rintro ⟨_, _, whole, rfl, pieced⟩
          obtain ⟨rfl, rfl⟩ := List.cons.inj whole
          exact ⟨rfl, pieced⟩

/-! ### Patterns without wildcards -/

/-- Characters that are no wildcards stand for themselves. -/
theorem elements_of_plain {cs : List Char} (noStar : '*' ∉ cs) (apart : ¬ ['.', '.'] <:+: cs) :
    elements cs = cs.map .exactly := by
  fun_induction elements cs with
  | case1 => rfl
  | case2 rest ih => exact absurd ⟨[], rest, rfl⟩ apart
  | case3 rest ih => exact absurd List.mem_cons_self noStar
  | case4 c rest _ _ ih =>
    rw [List.map_cons, ih (fun member => noStar (List.mem_cons_of_mem _ member))
      (fun inside => apart (inside.trans (List.suffix_cons c rest).isInfix))]

/-- Such a pattern fits its own text only. -/
theorem pieced_exactly {cs : List Char} : Pieced (cs.map .exactly) text ↔ text = cs := by
  induction cs generalizing text with
  | nil => exact pieced_nil
  | cons c rest ih =>
    rw [List.map_cons, pieced_cons]
    constructor
    · rintro ⟨_, behind, rfl, rfl, later⟩
      rw [ih.mp later, List.singleton_append]
    · rintro rfl
      exact ⟨[c], rest, rfl, rfl, ih.mpr rfl⟩

/-! ### Patterns around the last dot -/

variable {before name short type : List Char}

/-- A pattern without dots fits no text with one. -/
theorem no_dot_of_pieced (simple : '.' ∉ name) (pieced : Pieced (elements name) text) :
    '.' ∉ text := by
  fun_induction elements name generalizing text with
  | case1 =>
    rw [pieced_nil.mp pieced]
    exact List.not_mem_nil
  | case2 rest ih => exact absurd List.mem_cons_self simple
  | case3 rest ih =>
    obtain ⟨run, behind, rfl, free, later⟩ := pieced_cons.mp pieced
    have plain := ih (fun member => simple (List.mem_cons_of_mem _ member)) later
    simp [plain, show '.' ∉ run from free]
  | case4 c rest _ _ ih =>
    obtain ⟨piece, behind, rfl, rfl, later⟩ := pieced_cons.mp pieced
    simp only [List.mem_cons, not_or] at simple
    simp [ih simple.2 later, simple.1]

/-- A dot with a pattern without dots behind it stands for the last dot of a text. -/
theorem pieced_last_dot (simple : '.' ∉ name) (plain : '.' ∉ short) :
    Pieced (es ++ .exactly '.' :: elements name) (type ++ '.' :: short) ↔
      Pieced es type ∧ Pieced (elements name) short := by
  rw [pieced_append]
  constructor
  · rintro ⟨front, back, whole, inFront, behind⟩
    obtain ⟨dot, rest, rfl, rfl, pieced⟩ := pieced_cons.mp behind
    have cut := Text.cutLast_append plain type
    rw [whole, List.singleton_append, Text.cutLast_append (no_dot_of_pieced simple pieced)] at cut
    cases cut
    exact ⟨inFront, pieced⟩
  · rintro ⟨fits, named⟩
    exact ⟨type, '.' :: short, rfl, fits, pieced_cons.mpr ⟨['.'], short, rfl, rfl, named⟩⟩

theorem elements_dot (simple : '.' ∉ name) : elements ('.' :: name) = .exactly '.' :: elements name := by
  cases name with
  | nil => rfl
  | cons c rest =>
    have other : c ≠ '.' := fun same => simple (same ▸ List.mem_cons_self)
    rw [elements]
    all_goals simp [other]

/-- Dots are paired from the left, so the dot in front of a name is one of its own unless a dot
stands before it. -/
theorem elements_append_dot (apart : before.getLast? ≠ some '.') (simple : '.' ∉ name) :
    elements (before ++ '.' :: name) = elements before ++ .exactly '.' :: elements name := by
  have shorter : ∀ {c : Char} {rest : List Char}, (c :: rest).getLast? ≠ some '.' →
      rest.getLast? ≠ some '.' := by
    intro c rest apart ends
    refine apart ?_
    rw [List.getLast?_cons, ends]
    rfl
  fun_induction elements before with
  | case1 => exact elements_dot simple
  | case2 rest ih =>
    rw [List.cons_append, List.cons_append, elements, ih (shorter (shorter apart)), List.cons_append]
  | case3 rest ih => rw [List.cons_append, elements, ih (shorter apart), List.cons_append]
  | case4 c rest alone other ih =>
    rw [List.cons_append, elements, ih (shorter apart), List.cons_append]
    · intro behind same shape
      cases rest with
      | nil => exact apart (by simp [same])
      | cons d more =>
        obtain ⟨rfl, -⟩ := List.cons.inj shape
        exact alone more same rfl
    · exact other

end Crosscut.WildcardPieces
