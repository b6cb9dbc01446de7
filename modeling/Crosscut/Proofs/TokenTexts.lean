import Crosscut.Collect
import Crosscut.Pointcut.Token

/-! Texts side by side. Every token ends by itself: a clause with its parenthesis, any other token
with its last character. So a text that is cut into tokens is cut in the same way in front of any
other text, and only the offsets tell where it stands. -/
namespace Crosscut.TokenTexts
open Token

/-- Wherever the text starts, it is cut into tokens of these kinds. -/
def Spells (cs : List Char) (ks : List TokenKind) : Prop :=
  ∀ offset, ∃ ts, lex offset cs = .ok ts ∧ ts.map Token.kind = ks

/-- What closes a parenthesis closes it in front of any text. -/
theorem untilClosed_append {depth : Nat} {cs body after : List Char}
    (closed : untilClosed depth cs = some (body, after)) (more : List Char) :
    untilClosed depth (cs ++ more) = some (body, after ++ more) := by
  fun_induction untilClosed depth cs generalizing body with
  | case1 => cases closed
  | case2 rest =>
    cases closed
    rfl
  | case3 depth rest ih | case4 depth rest ih =>
    obtain ⟨⟨inner, remaining⟩, found, same⟩ := Option.map_eq_some_iff.mp closed
    cases same
    rw [List.cons_append, untilClosed, ih found]
    rfl
  | case5 depth c rest inner outer opens ih =>
    obtain ⟨⟨inner, remaining⟩, found, same⟩ := Option.map_eq_some_iff.mp closed
    cases same
    rw [List.cons_append, untilClosed, ih found]
    · rfl
    all_goals assumption

/-- A run that ends within a text ends there in front of any text. -/
theorem run_append {test : Char → Bool} {cs : List Char} (ends : cs.dropWhile test ≠ [])
    (more : List Char) :
    (cs ++ more).takeWhile test = cs.takeWhile test ∧
      (cs ++ more).dropWhile test = cs.dropWhile test ++ more := by
  induction cs with
  | nil => exact absurd rfl ends
  | cons c rest ih =>
    by_cases passes : test c = true
    · rw [List.dropWhile_cons_of_pos passes] at ends
      simp [passes, ih ends]
    · simp [passes]

/-- A clause is read in the same way in front of any text. -/
theorem readClause_append {offset : Nat} {first : Char} {cs : List Char} {raw : RawClause}
    {next : Nat} {after : List Char} (made : readClause offset first cs = .ok (raw, next, after))
    (other : Nat) (more : List Char) :
    ∃ stop, readClause other first (cs ++ more) = .ok (raw, stop, after ++ more) := by
  simp only [readClause] at made
  split at made
  · rename_i inside opens
    have solid : cs.dropWhile isNameChar ≠ [] := by
      intro none
      simp [none] at opens
    have opened : (cs.dropWhile isNameChar).dropWhile Text.isBlank ≠ [] := by simp [opens]
    have word := run_append solid more
    have spacing := run_append opened more
    simp only [readClause, word, spacing, opens, List.cons_append]
    split at made
    · cases made
    · rename_i body remaining closed
      split at made
      · cases made
      · rename_i kind known
        cases made
        simp only [untilClosed_append closed]
        exact ⟨_, rfl⟩
  · cases made

variable {cs ds : List Char} {ks : List TokenKind}

theorem spells_nil : Spells [] [] :=
  fun _ => ⟨[], by rw [lex], rfl⟩

/-- A token in front of a spelled text. -/
theorem spells_cons {text : List Char} {kind : TokenKind}
    (first : ∀ offset, ∃ next, lex offset text = (lex next cs).map (⟨kind, offset⟩ :: ·))
    (behind : Spells cs ks) : Spells text (kind :: ks) := by
  intro offset
  obtain ⟨next, cut⟩ := first offset
  obtain ⟨ts, later, kinds⟩ := behind next
  exact ⟨⟨kind, offset⟩ :: ts, by rw [cut, later]; rfl, by rw [List.map_cons, kinds]⟩

theorem spells_not (behind : Spells cs ks) : Spells ('!' :: cs) (.not :: ks) :=
  spells_cons (fun offset => ⟨offset + 1, by rw [lex]⟩) behind

theorem spells_opening (behind : Spells cs ks) : Spells ('(' :: cs) (.opening :: ks) :=
  spells_cons (fun offset => ⟨offset + 1, by rw [lex]⟩) behind

theorem spells_closing (behind : Spells cs ks) : Spells (')' :: cs) (.closing :: ks) :=
  spells_cons (fun offset => ⟨offset + 1, by rw [lex]⟩) behind

theorem spells_and (behind : Spells cs ks) : Spells ('&' :: '&' :: cs) (.and :: ks) :=
  spells_cons (fun offset => ⟨offset + 2, by rw [lex]⟩) behind

theorem spells_or (behind : Spells cs ks) : Spells ('|' :: '|' :: cs) (.or :: ks) :=
  spells_cons (fun offset => ⟨offset + 2, by rw [lex]⟩) behind

/-- White space and the first characters of words are no connectives and no parentheses. -/
theorem lex_word {c : Char} (ordinary : (Text.isBlank c || (c == '@' || isNameChar c)) = true)
    (offset : Nat) :
    lex offset (c :: cs) =
      if Text.isBlank c then lex (offset + c.utf8Size) cs
      else if c == '@' || isNameChar c then
        match readClause offset c cs with
        | .error fault => .error fault
        | .ok (raw, next, after) => (lex next after).map (⟨.clause raw, offset⟩ :: ·)
      else .error (.stray offset c) := by
  have other : c ≠ '!' ∧ c ≠ '(' ∧ c ≠ ')' ∧ c ≠ '&' ∧ c ≠ '|' := by
    refine ⟨?_, ?_, ?_, ?_, ?_⟩ <;> rintro rfl <;> exact absurd ordinary (by decide +kernel)
  rw [lex]
  · split
    · rfl
    · split
      · split <;> simp_all
      · rfl
  all_goals simp [other]

theorem spells_blank {c : Char} (blank : Text.isBlank c = true) (behind : Spells cs ks) :
    Spells (c :: cs) ks := by
  intro offset
  obtain ⟨ts, cut, kinds⟩ := behind (offset + c.utf8Size)
  exact ⟨ts, by rw [lex_word (by simp [blank]), if_pos blank, cut], kinds⟩

/-- A text that is cut into tokens, in front of a spelled one. -/
theorem spells_append {offset : Nat} {ts : List Token} (cut : lex offset cs = .ok ts)
    (behind : Spells ds ks) : Spells (cs ++ ds) (ts.map Token.kind ++ ks) := by
  fun_induction lex offset cs generalizing ts with
  | case1 offset =>
    cases cut
    exact behind
  | case2 offset rest ih =>
    obtain ⟨others, later, rfl⟩ := map_eq_ok.mp cut
    exact spells_not (ih later)
  | case3 offset rest ih =>
    obtain ⟨others, later, rfl⟩ := map_eq_ok.mp cut
    exact spells_opening (ih later)
  | case4 offset rest ih =>
    obtain ⟨others, later, rfl⟩ := map_eq_ok.mp cut
    exact spells_closing (ih later)
  | case5 offset rest ih =>
    obtain ⟨others, later, rfl⟩ := map_eq_ok.mp cut
    exact spells_and (ih later)
  | case6 offset rest ih =>
    obtain ⟨others, later, rfl⟩ := map_eq_ok.mp cut
    exact spells_or (ih later)
  | case7 offset c rest _ _ _ _ _ blank ih => exact spells_blank blank (ih cut)
  | case8 => cases cut
  | case9 offset c rest _ _ _ _ _ solid starts raw next after made ih =>
    obtain ⟨others, later, rfl⟩ := map_eq_ok.mp cut
    refine spells_cons (fun other => ?_) (ih later)
    obtain ⟨stop, read⟩ := readClause_append made other ds
    refine ⟨stop, ?_⟩
    rw [List.cons_append, lex_word (by simp [starts]), if_neg solid, if_pos starts, read]
  | case10 => cases cut

theorem tokenize_eq_ok {expression : String} {ts : List Token} :
    tokenize expression = .ok ts ↔ lex 0 expression.toList = .ok ts := by
  unfold tokenize
  cases lex 0 expression.toList with
  | error fault => exact ⟨(nomatch ·), (nomatch ·)⟩
  | ok found =>
    exact ⟨fun made => congrArg _ (Except.ok.inj made), fun made => congrArg _ (Except.ok.inj made)⟩

end Crosscut.TokenTexts
