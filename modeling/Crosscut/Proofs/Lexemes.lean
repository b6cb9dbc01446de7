import Crosscut.Proofs.TokenTexts
import Mathlib.Data.List.DropRight

/-! The words of the expression language. A lexeme is a connective, a parenthesis, or a clause: a
keyword, white space and a body in balanced parentheses. Reading a clause takes exactly the lexeme
that it is, so a lexeme at the start of a text is the first token of it. -/
namespace Crosscut.Lexemes
open Token TokenTexts

/-! ### Balanced bodies -/

/-- A text that closes the parentheses it opens and those that are open before it. -/
structure Closes (depth : Nat) (cs : List Char) : Prop where
  along : ∀ front, front <+: cs → front.count ')' ≤ depth + front.count '('
  whole : cs.count ')' = depth + cs.count '('

theorem closes_nil {depth : Nat} : Closes depth [] ↔ depth = 0 := by
  constructor
  · intro closes
    simpa using closes.whole.symm
  · rintro rfl
    exact ⟨fun front before => by simp [List.prefix_nil.mp before], rfl⟩

/-- One character in front: if it closes a parenthesis, one has to be open. -/
theorem closes_cons {depth : Nat} {c : Char} {cs : List Char} :
    Closes depth (c :: cs) ↔ [c].count ')' ≤ depth + [c].count '(' ∧
      Closes (depth + [c].count '(' - [c].count ')') cs := by
  have counts : ∀ (mark : Char) (front : List Char),
      (c :: front).count mark = [c].count mark + front.count mark :=
    fun mark front => (List.count_append : ([c] ++ front).count mark = _)
  have ends := counts ')'
  have starts := counts '('
  constructor
  · intro closes
    have first := closes.along [c] (List.prefix_append [c] cs)
    refine ⟨first, fun front before => ?_, ?_⟩
    · have inside := closes.along (c :: front) ((List.prefix_cons_inj c).mpr before)
      rw [ends, starts] at inside
      omega
    · have all := closes.whole
      rw [ends, starts] at all
      omega
  · rintro ⟨first, along, whole⟩
    refine ⟨fun front before => ?_, by rw [ends, starts]; omega⟩
    rcases List.prefix_cons_iff.mp before with rfl | ⟨inner, rfl, within⟩
    · simp
    · have inside := along inner within
      rw [ends, starts]
      omega

theorem closes_closing {depth : Nat} {cs : List Char} :
    Closes depth (')' :: cs) ↔ 0 < depth ∧ Closes (depth - 1) cs := by
  rw [closes_cons]
  rfl

theorem closes_opening {depth : Nat} {cs : List Char} :
    Closes depth ('(' :: cs) ↔ Closes (depth + 1) cs := by
  rw [closes_cons]
  exact and_iff_right (Nat.zero_le _)

theorem closes_other {depth : Nat} {c : Char} {cs : List Char} (noClosing : c ≠ ')')
    (noOpening : c ≠ '(') : Closes depth (c :: cs) ↔ Closes depth cs := by
  rw [closes_cons, List.count_eq_zero.mpr (by simpa using noClosing.symm),
    List.count_eq_zero.mpr (by simpa using noOpening.symm)]
  exact and_iff_right (Nat.zero_le _)

theorem closes_of_untilClosed {depth : Nat} {cs body after : List Char}
    (closed : untilClosed depth cs = some (body, after)) : Closes depth body := by
  fun_induction untilClosed depth cs generalizing body with
  | case1 => cases closed
  | case2 rest =>
    cases closed
    exact closes_nil.mpr rfl
  | case3 depth rest ih =>
    obtain ⟨⟨inner, remaining⟩, found, same⟩ := Option.map_eq_some_iff.mp closed
    cases same
    exact closes_closing.mpr ⟨Nat.succ_pos depth, ih found⟩
  | case4 depth rest ih =>
    obtain ⟨⟨inner, remaining⟩, found, same⟩ := Option.map_eq_some_iff.mp closed
    cases same
    exact closes_opening.mpr (ih found)
  | case5 depth c rest outermost inner noOpening ih =>
    obtain ⟨⟨before, remaining⟩, found, same⟩ := Option.map_eq_some_iff.mp closed
    cases same
    have noClosing : c ≠ ')' := by
      cases depth with
      | zero => exact outermost rfl
      | succ depth => exact inner depth rfl
    exact (closes_other noClosing noOpening).mpr (ih found)

theorem untilClosed_of_closes {depth : Nat} {body : List Char} (closes : Closes depth body)
    (after : List Char) : untilClosed depth (body ++ ')' :: after) = some (body, after) := by
  induction body generalizing depth with
  | nil =>
    rw [closes_nil.mp closes]
    rfl
  | cons c rest ih =>
    by_cases closing : c = ')'
    · subst closing
      obtain ⟨inner, behind⟩ := closes_closing.mp closes
      obtain ⟨below, rfl⟩ := Nat.exists_eq_succ_of_ne_zero (Nat.ne_of_gt inner)
      have later : untilClosed below (rest ++ ')' :: after) = some (rest, after) := ih behind
      rw [List.cons_append, untilClosed, later]
      rfl
    by_cases opening : c = '('
    · subst opening
      rw [List.cons_append, untilClosed, ih (closes_opening.mp closes)]
      rfl
    · rw [List.cons_append, untilClosed, ih ((closes_other closing opening).mp closes)]
      · rfl
      all_goals simp [closing, opening]

/-- The text in front of the first parenthesis that nothing before it opened is the one that closes
what it opens. -/
theorem untilClosed_eq_some {depth : Nat} {cs body after : List Char} :
    untilClosed depth cs = some (body, after) ↔ cs = body ++ ')' :: after ∧ Closes depth body := by
  constructor
  · exact fun closed => ⟨untilClosed_eq closed, closes_of_untilClosed closed⟩
  · rintro ⟨rfl, closes⟩
    exact untilClosed_of_closes closes after

/-! ### White space -/

/-- The code points of white space. -/
def blankCodes : List Nat :=
  [9, 10, 11, 12, 13, 0x20, 0x85, 0xa0, 0x1680, 0x2000, 0x2001, 0x2002, 0x2003, 0x2004, 0x2005,
    0x2006, 0x2007, 0x2008, 0x2009, 0x200a, 0x2028, 0x2029, 0x202f, 0x205f, 0x3000]

theorem mem_blankCodes {c : Char} (blank : Text.isBlank c = true) : c.toNat ∈ blankCodes := by
  simp only [Text.isBlank, Text.Span.covers, Text.blankSpans, Text.Span.contains, List.any_cons,
    List.any_nil] at blank
  split at blank
  · simp [blankCodes] at blank ⊢
    omega
  · simp [blankCodes] at blank ⊢
    omega

theorem blankCodes_no_name : ∀ code ∈ blankCodes, isNameChar (Char.ofNat code) = false := by
  decide +kernel

/-- No name holds white space, so a name ends in front of it. -/
theorem no_name_of_blank {c : Char} (blank : Text.isBlank c = true) : isNameChar c = false := by
  rw [← Char.ofNat_toNat c]
  exact blankCodes_no_name _ (mem_blankCodes blank)

/-- White space around a text closes and opens nothing. -/
theorem closes_of_blanks {depth : Nat} {front cs back : List Char}
    (before : ∀ c ∈ front, Text.isBlank c = true) (behind : ∀ c ∈ back, Text.isBlank c = true)
    (closes : Closes depth (front ++ cs ++ back)) : Closes depth cs := by
  have none : ∀ (mark : Char), Text.isBlank mark = false → ∀ blanks : List Char,
      (∀ c ∈ blanks, Text.isBlank c = true) → blanks.count mark = 0 := by
    intro mark solid blanks all
    refine List.count_eq_zero.mpr fun member => ?_
    rw [all mark member] at solid
    cases solid
  refine ⟨fun inner within => ?_, ?_⟩
  · have inside := closes.along (front ++ inner)
      (((List.prefix_append_right_inj front).mpr within).trans (List.prefix_append _ back))
    rw [List.count_append, List.count_append, none ')' (by decide) front before,
      none '(' (by decide) front before] at inside
    omega
  · have all := closes.whole
    simp only [List.count_append, none ')' (by decide) front before,
      none '(' (by decide) front before, none ')' (by decide) back behind,
      none '(' (by decide) back behind] at all
    omega

/-- Trimming takes white space off both ends. -/
theorem exists_of_trimChars (cs : List Char) :
    ∃ front back : List Char, front ++ Text.trimChars cs ++ back = cs ∧
      (∀ c ∈ front, Text.isBlank c = true) ∧ ∀ c ∈ back, Text.isBlank c = true := by
  refine ⟨cs.takeWhile Text.isBlank,
    ((cs.dropWhile Text.isBlank).reverse.takeWhile Text.isBlank).reverse, ?_, ?_, ?_⟩
  · rw [Text.trimChars, List.append_assoc, ← List.reverse_append, List.takeWhile_append_dropWhile,
      List.reverse_reverse, List.takeWhile_append_dropWhile]
  · exact fun c member => List.mem_takeWhile_imp member
  · exact fun c member => List.mem_takeWhile_imp (List.mem_reverse.mp member)

theorem closes_trimChars {cs : List Char} {depth : Nat} (closes : Closes depth cs) :
    Closes depth (Text.trimChars cs) := by
  obtain ⟨front, back, whole, before, behind⟩ := exists_of_trimChars cs
  exact closes_of_blanks before behind (whole.symm ▸ closes)

/-- A trimmed text starts as the text behind the white space does. -/
theorem dropWhile_trimChars (cs : List Char) :
    (Text.trimChars cs).dropWhile Text.isBlank = Text.trimChars cs := by
  have before : Text.trimChars cs <+: cs.dropWhile Text.isBlank := by
    rw [← List.reverse_suffix, Text.trimChars, List.reverse_reverse]
    exact List.dropWhile_suffix _
  rw [List.dropWhile_eq_self_iff]
  intro solid blank
  rw [before.getElem solid] at blank
  exact List.dropWhile_get_zero_not Text.isBlank cs (solid.trans_le before.length_le) blank

theorem trimChars_trimChars (cs : List Char) :
    Text.trimChars (Text.trimChars cs) = Text.trimChars cs := by
  rw [Text.trimChars, dropWhile_trimChars]
  simp only [Text.trimChars, List.reverse_reverse, List.dropWhile_idempotent Text.isBlank]

/-! ### Keywords -/

/-- The words that start with an at sign. -/
def signed : List String :=
  ["@target", "@within", "@annotation", "@args", "@params"]

/-- The word of a clause: characters of names, or one of the words with an at sign. -/
def Keyword (word : List Char) : Prop :=
  (word ≠ [] ∧ ∀ c ∈ word, isNameChar c = true) ∨ String.ofList word ∈ signed

/-- A word that is written for a test means that test, any other word names a pointcut. -/
def Means (word : String) : ClauseKind → Prop
  | .designator d => d.keyword = word
  | .reference => ∀ d : Designator, d.keyword ≠ word

/-- A keyword is one character that starts a word, and characters of names. -/
theorem exists_of_keyword {word : List Char} (keyword : Keyword word) :
    ∃ first name, word = first :: name ∧ (first == '@' || isNameChar first) = true ∧
      ∀ c ∈ name, isNameChar c = true := by
  rcases keyword with ⟨some, plain⟩ | sign
  · obtain ⟨first, name, rfl⟩ := List.exists_cons_of_ne_nil some
    exact ⟨first, name, rfl, by simp [plain first], fun c member => plain c (by simp [member])⟩
  · have shapes : ∀ known ∈ signed, known.toList.head? = some '@' ∧
        ∀ c ∈ known.toList.tail, isNameChar c = true := by
      simp [signed]
      decide +kernel
    obtain ⟨first, plain⟩ := shapes _ sign
    rw [String.toList_ofList] at first plain
    obtain ⟨name, rfl⟩ := List.head?_eq_some_iff.mp first
    exact ⟨'@', name, rfl, rfl, plain⟩

theorem keyword_cons {first : Char} {name : List Char}
    (starts : (first == '@' || isNameChar first) = true) (plain : ∀ c ∈ name, isNameChar c = true) :
    Keyword (first :: name) ↔ (first = '@' → String.ofList (first :: name) ∈ signed) := by
  constructor
  · rintro (⟨-, all⟩ | sign) rfl
    · exact absurd (all '@' List.mem_cons_self) (by decide)
    · exact sign
  · intro known
    by_cases sign : first = '@'
    · exact .inr (known sign)
    · refine .inl ⟨List.cons_ne_nil _ _, List.forall_mem_cons.mpr ⟨?_, plain⟩⟩
      simpa [sign] using starts

/-- A word has a kind exactly when it is not one of the unknown words with an at sign, and the kind
is what the word means. -/
theorem ofKeyword?_eq_some {word : String} {kind : ClauseKind} :
    ClauseKind.ofKeyword? word = some kind ↔
      Means word kind ∧ (word.toList.head? = some '@' → word ∈ signed) := by
  have tests : ∀ d : Designator, d.keyword.toList.head? = some '@' → d.keyword ∈ signed := by
    rintro (_ | _ | (_ | _) | _ | (_ | _ | _ | _ | _)) <;> decide
  have names : ∀ known ∈ signed, ∃ d : Designator, d.keyword = known := by
    have listed : ∀ known ∈ signed, known ∈ Designator.all.map Designator.keyword := by decide
    exact fun known member => (List.mem_map.mp (listed known member)).imp fun d found => found.2
  unfold ClauseKind.ofKeyword?
  cases found : Designator.ofKeyword? word with
  | some d =>
    obtain rfl : d.keyword = word := by
      simpa using List.find?_some found
    constructor
    · rintro ⟨⟩
      exact ⟨rfl, tests d⟩
    · rintro ⟨means, -⟩
      cases kind with
      | reference => exact absurd rfl (means d)
      | designator other =>
        have same : Designator.ofKeyword? d.keyword = some other :=
          means ▸ other.ofKeyword?_keyword
        rw [d.ofKeyword?_keyword] at same
        rw [Option.some.inj same]
  | none =>
    have free : ∀ d : Designator, d.keyword ≠ word := by
      rintro d rfl
      rw [d.ofKeyword?_keyword] at found
      cases found
    have unsigned : word ∉ signed := fun member => by
      obtain ⟨d, same⟩ := names word member
      exact free d same
    cases kind with
    | designator d => simp [Means, free d]
    | reference => simp [Means, free, unsigned]

/-! ### Lexemes -/

/-- The texts that are tokens, each with what it is. A clause is a keyword, white space and a body
in balanced parentheses; the token keeps the trimmed body. -/
inductive Lexeme : List Char → TokenKind → Prop
  | and : Lexeme ['&', '&'] .and
  | or : Lexeme ['|', '|'] .or
  | not : Lexeme ['!'] .not
  | opening : Lexeme ['('] .opening
  | closing : Lexeme [')'] .closing
  | clause {word spacing body : List Char} {kind : ClauseKind} (keyword : Keyword word)
      (means : Means (String.ofList word) kind) (blank : ∀ c ∈ spacing, Text.isBlank c = true)
      (balanced : Closes 0 body) :
      Lexeme (word ++ spacing ++ '(' :: body ++ [')'])
        (.clause ⟨String.ofList word, kind, String.ofList (Text.trimChars body)⟩)

theorem byteLength_append (front back : List Char) :
    Text.byteLength (front ++ back) = Text.byteLength front + Text.byteLength back := by
  induction front with
  | nil => simp [Text.byteLength]
  | cons c rest ih => simp [Text.byteLength, ih, Nat.add_assoc]

/-- Each parenthesis takes one byte. -/
theorem byteLength_clause (word spacing body : List Char) :
    Text.byteLength (word ++ spacing ++ '(' :: body ++ [')']) =
      Text.byteLength word + Text.byteLength spacing + Text.byteLength body + 2 := by
  have single : '('.utf8Size = 1 ∧ ')'.utf8Size = 1 := by decide
  simp only [byteLength_append, Text.byteLength, single]
  omega

/-- A run ends in front of a character that it cannot hold. -/
theorem run_eq {test : Char → Bool} {run : List Char} (all : ∀ c ∈ run, test c = true)
    (behind : List Char) (ends : ∀ c, behind.head? = some c → test c = false) :
    (run ++ behind).takeWhile test = run ∧ (run ++ behind).dropWhile test = behind := by
  rw [List.takeWhile_append_of_pos all, List.dropWhile_append_of_pos all]
  cases behind with
  | nil => simp
  | cons c rest => simp [ends c rfl]

/-- What is read as a clause is a lexeme, and the text behind it is left. -/
theorem lexeme_of_readClause {offset : Nat} {first : Char} {cs : List Char} {raw : RawClause}
    {next : Nat} {after : List Char} (starts : (first == '@' || isNameChar first) = true)
    (made : readClause offset first cs = .ok (raw, next, after)) :
    ∃ text, first :: cs = text ++ after ∧ Lexeme text (.clause raw) ∧
      next = offset + Text.byteLength text := by
  let name := cs.takeWhile isNameChar
  let spacing := (cs.dropWhile isNameChar).takeWhile Text.isBlank
  simp only [readClause] at made
  split at made
  · rename_i inside opens
    split at made
    · cases made
    · rename_i body remaining closed
      split at made
      · cases made
      · rename_i kind known
        cases made
        obtain ⟨rfl, balanced⟩ := untilClosed_eq_some.mp closed
        obtain ⟨means, sign⟩ := ofKeyword?_eq_some.mp known
        have whole : cs = name ++ (spacing ++ '(' :: (body ++ ')' :: after)) := by
          rw [← opens, List.takeWhile_append_dropWhile, List.takeWhile_append_dropWhile]
        have keyword : Keyword (first :: name) :=
          (keyword_cons starts fun c member => List.mem_takeWhile_imp member).mpr
            fun same => sign (by simp [same])
        refine ⟨first :: name ++ spacing ++ '(' :: body ++ [')'], ?_,
          .clause keyword means (fun c member => List.mem_takeWhile_imp member) balanced, ?_⟩
        · rw [whole]
          simp
        · rw [byteLength_clause]
          simp only [name, spacing]
          omega
  · cases made

/-- A clause in front of any text is read, and that text is left. -/
theorem readClause_of_lexeme {text : List Char} {raw : RawClause} (lexeme : Lexeme text (.clause raw))
    (offset : Nat) (after : List Char) :
    ∃ first cs, text ++ after = first :: cs ∧ (first == '@' || isNameChar first) = true ∧
      readClause offset first cs = .ok (raw, offset + Text.byteLength text, after) := by
  cases lexeme with
  | @clause word spacing body kind keyword means blank balanced =>
    obtain ⟨first, name, rfl, starts, plain⟩ := exists_of_keyword keyword
    have known : ClauseKind.ofKeyword? (String.ofList (first :: name)) = some kind :=
      ofKeyword?_eq_some.mpr ⟨means, fun sign => (keyword_cons starts plain).mp keyword
        (by simpa using sign)⟩
    refine ⟨first, name ++ (spacing ++ '(' :: (body ++ ')' :: after)), by simp, starts, ?_⟩
    have spacingRun := run_eq blank ('(' :: (body ++ ')' :: after)) (by simp; decide)
    have wordRun := run_eq plain (spacing ++ '(' :: (body ++ ')' :: after)) fun c leads => by
      cases spacing with
      | nil =>
        cases leads
        decide
      | cons gap rest =>
        cases leads
        exact no_name_of_blank (blank _ List.mem_cons_self)
    have closed : untilClosed 0 (body ++ ')' :: after) = some (body, after) :=
      untilClosed_eq_some.mpr ⟨rfl, balanced⟩
    simp only [readClause, wordRun, spacingRun, closed, known, byteLength_clause]
    simp only [Nat.add_assoc]

/-- What starts a word is no white space. -/
theorem solid_of_starts {c : Char} (starts : (c == '@' || isNameChar c) = true) :
    Text.isBlank c = false := by
  by_contra blank
  rw [Bool.not_eq_false] at blank
  rw [no_name_of_blank blank, Bool.or_false, beq_iff_eq] at starts
  subst starts
  exact absurd blank (by decide)

/-- A lexeme at the start of a text is its first token. -/
theorem lex_lexeme {text : List Char} {kind : TokenKind} (lexeme : Lexeme text kind) (offset : Nat)
    (cs : List Char) :
    lex offset (text ++ cs) =
      (lex (offset + Text.byteLength text) cs).map (⟨kind, offset⟩ :: ·) := by
  cases kind with
  | clause raw =>
    obtain ⟨first, rest, whole, starts, read⟩ := readClause_of_lexeme lexeme offset cs
    rw [whole, lex_word (by simp [starts]), solid_of_starts starts, if_neg Bool.false_ne_true,
      if_pos starts, read]
  | and | or | not | opening | closing =>
    cases lexeme
    simp only [List.cons_append, List.nil_append]
    rw [lex]
    rfl

end Crosscut.Lexemes
