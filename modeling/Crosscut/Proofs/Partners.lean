import Crosscut.Proofs.Lexemes

/-! Parentheses and their partners. Two parentheses belong together if the text between them closes what
it opens. A text is balanced exactly if each of its parentheses has a partner, so one that has none is
what a text is unbalanced for. -/
namespace Crosscut.Partners
open Lexemes

/-- There is a parenthesis without a partner behind so many bytes of a text. -/
inductive Unpaired (cs : List Char) (offset : Nat) : Prop
  | closing {front back : List Char} (whole : cs = front ++ ')' :: back)
      (place : Text.byteLength front = offset)
      (alone : ∀ before inside, front = before ++ '(' :: inside → ¬ Closes 0 inside)
  | opening {front back : List Char} (whole : cs = front ++ '(' :: back)
      (place : Text.byteLength front = offset)
      (alone : ∀ inside behind, back = inside ++ ')' :: behind → ¬ Closes 0 inside)

variable {cs ds front back : List Char} {depth offset : Nat}

/-! ### Balanced parts -/

/-- A balanced part of a text is neither needed nor a hindrance to close what is open. -/
theorem closes_append (inner : Closes 0 cs) : Closes depth (cs ++ ds) ↔ Closes depth ds := by
  have even := inner.whole
  constructor
  · intro closes
    refine ⟨fun part within => ?_, ?_⟩
    · have along := closes.along (cs ++ part) ((List.prefix_append_right_inj cs).mpr within)
      rw [List.count_append, List.count_append] at along
      omega
    · have all := closes.whole
      rw [List.count_append, List.count_append] at all
      omega
  · intro closes
    refine ⟨fun part within => ?_, ?_⟩
    · obtain ⟨rest, same⟩ := within
      rcases List.append_eq_append_iff.mp same with ⟨more, rfl, -⟩ | ⟨more, rfl, rfl⟩
      · have along := inner.along part (List.prefix_append part more)
        omega
      · have along := closes.along more (List.prefix_append more rest)
        rw [List.count_append, List.count_append]
        omega
    · have all := closes.whole
      rw [List.count_append, List.count_append]
      omega

/-- A balanced text in parentheses is balanced. -/
theorem closes_group (inner : Closes 0 cs) : Closes 0 ('(' :: cs ++ [')']) := by
  rw [List.cons_append, closes_opening, closes_append inner, closes_closing]
  exact ⟨Nat.one_pos, closes_nil.mpr rfl⟩

/-- Nothing behind a parenthesis that opens closes it if all that is opened there is closed there. -/
theorem not_closes_of_opening (inner : Closes 0 back) : ¬ Closes 0 (front ++ '(' :: back) := by
  intro closes
  have along := closes.along front (List.prefix_append front _)
  have all : front.count ')' + back.count ')' = front.count '(' + (back.count '(' + 1) := by
    simpa using closes.whole
  have even := inner.whole
  omega

/-- Nothing in front of a parenthesis that closes opens it if all that is opened there is closed
there. -/
theorem not_closes_of_closing (inner : Closes 0 front) : ¬ Closes 0 (front ++ ')' :: back) := by
  rw [closes_append inner, closes_closing]
  rintro ⟨positive, -⟩
  exact Nat.lt_irrefl 0 positive

theorem closes_single {c : Char} (noOpening : c ≠ '(') (noClosing : c ≠ ')') : Closes 0 [c] :=
  (closes_other noClosing noOpening).mpr (closes_nil.mpr rfl)

/-! ### Partners -/

/-- Where more is opened than closed, a parenthesis that opens stays open, also if the text goes on and
closes less than that many. -/
theorem exists_opening (cs ds : List Char) (behind : Closes depth ds)
    (more : cs.count ')' + depth < cs.count '(') :
    ∃ before inside, cs = before ++ '(' :: inside ∧ Closes 0 (inside ++ ds) := by
  induction cs using List.reverseRecOn generalizing ds depth with
  | nil => simp at more
  | append_singleton front c ih =>
    -- The last character of the text is one more that the rest of it goes on with.
    have last {further : Nat} (closes : Closes further (c :: ds))
        (fewer : front.count ')' + further < front.count '(') :
        ∃ before inside, front ++ [c] = before ++ '(' :: inside ∧ Closes 0 (inside ++ ds) := by
      obtain ⟨before, inside, rfl, around⟩ := ih (c :: ds) closes fewer
      exact ⟨before, inside ++ [c], by simp, by simpa using around⟩
    by_cases opening : c = '('
    · subst opening
      cases depth with
      | zero => exact ⟨front, [], rfl, behind⟩
      | succ depth =>
        have inFront : front.count ')' + depth < front.count '(' := by
          simpa [← Nat.add_assoc] using more
        exact last (closes_opening.mpr behind) inFront
    by_cases closing : c = ')'
    · subst closing
      have inFront : front.count ')' + (depth + 1) < front.count '(' := by
        simpa [Nat.add_right_comm, Nat.add_assoc] using more
      exact last (closes_closing.mpr ⟨depth.succ_pos, behind⟩) inFront
    · have inFront : front.count ')' + depth < front.count '(' := by
        simpa [opening, closing] using more
      exact last ((closes_other closing opening).mpr behind) inFront

/-- Where more is closed than is open and opened, a parenthesis that closes has nothing to close. -/
theorem exists_closing (depth : Nat) (cs : List Char) (more : depth + cs.count '(' < cs.count ')') :
    ∃ inside behind, cs = inside ++ ')' :: behind ∧ Closes depth inside := by
  induction cs generalizing depth with
  | nil => simp at more
  | cons c back ih =>
    have first {further : Nat} (closes : ∀ inside, Closes further inside → Closes depth (c :: inside))
        (fewer : further + back.count '(' < back.count ')') :
        ∃ inside behind, c :: back = inside ++ ')' :: behind ∧ Closes depth inside := by
      obtain ⟨inside, behind, rfl, within⟩ := ih further fewer
      exact ⟨c :: inside, behind, rfl, closes inside within⟩
    by_cases closing : c = ')'
    · subst closing
      cases depth with
      | zero => exact ⟨[], back, rfl, closes_nil.mpr rfl⟩
      | succ depth =>
        have inBack : depth + back.count '(' < back.count ')' := by
          simpa [Nat.add_right_comm] using more
        exact first (fun inside within => closes_closing.mpr ⟨depth.succ_pos, within⟩) inBack
    by_cases opening : c = '('
    · subst opening
      have inBack : depth + 1 + back.count '(' < back.count ')' := by
        simpa [Nat.add_right_comm, ← Nat.add_assoc] using more
      exact first (fun inside within => closes_opening.mpr within) inBack
    · have inBack : depth + back.count '(' < back.count ')' := by
        simpa [opening, closing] using more
      exact first (fun inside within => (closes_other closing opening).mpr within) inBack

/-- In a balanced text every parenthesis has a partner. -/
theorem not_unpaired_of_balanced (balanced : Closes 0 cs) : ¬ Unpaired cs offset := by
  rintro (⟨rfl, -, alone⟩ | ⟨rfl, -, alone⟩)
  case closing front back =>
    have along : front.count ')' + 1 ≤ front.count '(' := by
      simpa using balanced.along (front ++ [')']) ⟨back, by simp⟩
    obtain ⟨before, inside, rfl, even⟩ := exists_opening front [] (closes_nil.mpr rfl) (by omega)
    exact alone before inside rfl (by simpa using even)
  case opening front back =>
    have along := balanced.along front (List.prefix_append front _)
    have all : front.count ')' + back.count ')' = front.count '(' + (back.count '(' + 1) := by
      simpa using balanced.whole
    obtain ⟨inside, behind, rfl, even⟩ := exists_closing 0 back (by omega)
    exact alone inside behind rfl even

theorem unpaired_closing (inner : Closes 0 front) (back : List Char) :
    Unpaired (front ++ ')' :: back) (Text.byteLength front) := by
  refine .closing rfl rfl ?_
  rintro before inside rfl even
  exact not_closes_of_opening even inner

theorem unpaired_opening (inner : Closes 0 back) (front : List Char) :
    Unpaired (front ++ '(' :: back) (Text.byteLength front) := by
  refine .opening rfl rfl ?_
  rintro inside behind rfl even
  exact not_closes_of_closing even inner

/-- A text is balanced exactly if each of its parentheses has a partner. -/
theorem balanced_iff : Closes 0 cs ↔ ∀ offset, ¬ Unpaired cs offset := by
  refine ⟨fun balanced offset => not_unpaired_of_balanced balanced, fun paired => ?_⟩
  have along : ∀ front, front <+: cs → front.count ')' ≤ front.count '(' := by
    rintro front ⟨back, rfl⟩
    by_contra more
    obtain ⟨inside, behind, rfl, even⟩ := exists_closing 0 front (by omega)
    rw [List.append_assoc, List.cons_append] at paired
    exact paired _ (unpaired_closing even (behind ++ back))
  have whole : cs.count '(' ≤ cs.count ')' := by
    by_contra more
    obtain ⟨before, inside, rfl, even⟩ := exists_opening cs [] (closes_nil.mpr rfl) (by omega)
    exact paired _ (unpaired_opening (by simpa using even) before)
  refine ⟨fun front within => ?_, ?_⟩
  · rw [Nat.zero_add]
    exact along front within
  · rw [Nat.zero_add]
    exact Nat.le_antisymm (along cs (List.prefix_refl cs)) whole

end Crosscut.Partners
