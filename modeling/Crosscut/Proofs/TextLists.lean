import Crosscut.Proofs.Lexemes

/-! Lists in texts. The words of a text are its runs between white space, and a list with commas has
trimmed items between them. For both, the text says in one way only what is listed, and reading it
finds that. -/
namespace Crosscut.TextLists
open Lexemes

/-- Nothing but white space. -/
def Blank (cs : List Char) : Prop :=
  ∀ c ∈ cs, Text.isBlank c = true

/-- Something without white space. -/
structure Word (cs : List Char) : Prop where
  given : cs ≠ []
  solid : ∀ c ∈ cs, Text.isBlank c = false

/-- A text that holds words in order, with white space between them and maybe around them. -/
inductive Spaced : List (List Char) → List Char → Prop
  | none {gap : List Char} (blank : Blank gap) : Spaced [] gap
  | word {gap word rest : List Char} {words : List (List Char)} (blank : Blank gap)
      (solid : Word word) (ends : ∀ c, rest.head? = some c → Text.isBlank c = true)
      (behind : Spaced words rest) : Spaced (word :: words) (gap ++ word ++ rest)

/-- An item of a list: it holds no comma, and no white space starts or ends it. -/
structure Item (cs : List Char) : Prop where
  single : ',' ∉ cs
  starts : ∀ c, cs.head? = some c → Text.isBlank c = false
  ends : ∀ c, cs.getLast? = some c → Text.isBlank c = false

/-- An item with white space around it. -/
inductive Padded (item : List Char) : List Char → Prop
  | intro {front back : List Char} (before : Blank front) (behind : Blank back) :
      Padded item (front ++ item ++ back)

/-- A text that holds items in order, with commas between them. -/
inductive Separated : List (List Char) → List Char → Prop
  | one {item text : List Char} (single : Item item) (padded : Padded item text) :
      Separated [item] text
  | more {item text rest : List Char} {items : List (List Char)} (single : Item item)
      (padded : Padded item text) (behind : Separated items rest) :
      Separated (item :: items) (text ++ ',' :: rest)

/-- A list with commas. White space alone lists nothing. -/
def Listed (items : List (List Char)) (text : List Char) : Prop :=
  (items = [] ∧ Blank text) ∨ (¬ Blank text ∧ Separated items text)

variable {c : Char} {cs text front back rest word item : List Char}
  {words items others : List (List Char)}

/-! ### Parts -/

/-- Cutting at separators is cutting a list where a test holds. -/
theorem parts_eq_splitOnP (isSeparator : Char → Bool) (cs : List Char) :
    Text.parts isSeparator cs = cs.splitOnP isSeparator := by
  induction cs with
  | nil => rfl
  | cons c rest ih =>
    rw [Text.parts, List.splitOnP_cons_eq_if_modifyHead, ih]
    split
    · rfl
    · cases known : rest.splitOnP isSeparator with
      | nil => exact absurd known (List.splitOnP_ne_nil _ _)
      | cons part more => rfl

/-! ### Words -/

theorem words_blank (blank : Text.isBlank c = true) (cs : List Char) :
    Text.words (c :: cs) = Text.words cs := by
  simp [Text.words, Text.parts, blank]

theorem words_of_blank (blank : Blank cs) : Text.words cs = [] := by
  induction cs with
  | nil => rfl
  | cons c rest ih =>
    obtain ⟨here, later⟩ := List.forall_mem_cons.mp blank
    rw [words_blank here, ih later]

theorem words_append_blank (blank : Blank front) (cs : List Char) :
    Text.words (front ++ cs) = Text.words cs := by
  induction front with
  | nil => rfl
  | cons c rest ih =>
    obtain ⟨here, later⟩ := List.forall_mem_cons.mp blank
    rw [List.cons_append, words_blank here, ih later]

/-- A word that ends in front of white space is the first word. -/
theorem words_append_word (solid : Word word)
    (ends : ∀ c, rest.head? = some c → Text.isBlank c = true) :
    Text.words (word ++ rest) = word :: Text.words rest := by
  obtain ⟨first, more, rfl⟩ := List.exists_cons_of_ne_nil solid.given
  cases rest with
  | nil =>
    simp [Text.words, parts_eq_splitOnP, List.splitOnP_eq_singleton solid.solid]
  | cons c rest =>
    have blank := ends c rfl
    rw [words_blank blank, Text.words, parts_eq_splitOnP,
      List.splitOnP_append_cons_of_forall_mem solid.solid c blank, Text.words, parts_eq_splitOnP]
    rfl

theorem words_of_spaced (spaced : Spaced words text) : Text.words text = words := by
  induction spaced with
  | none blank => exact words_of_blank blank
  | word blank solid ends _ ih =>
    rw [List.append_assoc, words_append_blank blank, words_append_word solid ends, ih]

/-- White space in front changes no words. -/
theorem Spaced.blank_cons (blank : Text.isBlank c = true) (spaced : Spaced words text) :
    Spaced words (c :: text) := by
  cases spaced with
  | none all => exact .none (List.forall_mem_cons.mpr ⟨blank, all⟩)
  | word gap solid ends behind =>
    exact .word (List.forall_mem_cons.mpr ⟨blank, gap⟩) solid ends behind

/-- Every text holds words. -/
theorem exists_spaced (text : List Char) : ∃ words, Spaced words text := by
  induction text with
  | nil => exact ⟨[], .none (by simp [Blank])⟩
  | cons c rest ih =>
    obtain ⟨words, spaced⟩ := ih
    by_cases blank : Text.isBlank c = true
    · exact ⟨words, spaced.blank_cons blank⟩
    · have solid : Text.isBlank c = false := by simpa using blank
      have alone : Word [c] := ⟨by simp, by simpa using solid⟩
      have noGap : Blank [] := by simp [Blank]
      -- The character is a word of its own in front of white space, else it starts the next word.
      by_cases ends : ∀ d, rest.head? = some d → Text.isBlank d = true
      · exact ⟨[c] :: words, .word noGap alone ends spaced⟩
      · cases spaced with
        | none all =>
          refine absurd (fun d starts => all d ?_) ends
          exact List.mem_of_head? starts
        | @word gap word rest words blank next ends' behind =>
          cases gap with
          | nil =>
            have longer : Word (c :: word) :=
              ⟨by simp, List.forall_mem_cons.mpr ⟨solid, next.solid⟩⟩
            exact ⟨(c :: word) :: words, .word noGap longer ends' behind⟩
          | cons d gap =>
            refine absurd (fun e starts => ?_) ends
            cases starts
            exact blank _ List.mem_cons_self

/-- The words that are read from a text are those that it holds. -/
theorem words_eq_iff : Text.words text = words ↔ Spaced words text := by
  constructor
  · rintro rfl
    obtain ⟨words, spaced⟩ := exists_spaced text
    rwa [words_of_spaced spaced]
  · exact words_of_spaced

theorem word_of_spaced (spaced : Spaced words text) : ∀ word ∈ words, Word word := by
  induction spaced with
  | none _ => simp
  | word _ solid _ _ ih => exact List.forall_mem_cons.mpr ⟨solid, ih⟩

/-- Words are written one after the other with single spaces. -/
theorem spaced_intercalate (solid : ∀ word ∈ words, Word word) :
    Spaced words ([' '].intercalate words) := by
  induction words with
  | nil => exact .none (by simp [Blank])
  | cons word rest ih =>
    obtain ⟨here, later⟩ := List.forall_mem_cons.mp solid
    have noGap : Blank [] := by simp [Blank]
    cases rest with
    | nil =>
      have alone := Spaced.word noGap here (by simp) (.none noGap)
      simpa using alone
    | cons next rest =>
      rw [List.intercalate_cons_cons, List.append_assoc]
      refine .word noGap here ?_ ((ih later).blank_cons (by decide))
      rintro c ⟨⟩
      decide

/-! ### Items -/

theorem blank_append : Blank (front ++ back) ↔ Blank front ∧ Blank back :=
  List.forall_mem_append

theorem trimChars_of_blank (blank : Blank text) : Text.trimChars text = [] := by
  have all : text.dropWhile Text.isBlank = [] := List.dropWhile_eq_nil_iff.mpr blank
  simp [Text.trimChars, all]

theorem blank_of_trimChars (trimmed : Text.trimChars text = []) : Blank text := by
  obtain ⟨front, back, whole, before, behind⟩ := exists_of_trimChars text
  rw [trimmed, List.append_nil] at whole
  exact whole ▸ blank_append.mpr ⟨before, behind⟩

/-- White space at the front of a text is dropped up to the first character that is none. -/
theorem dropWhile_blank_append (blank : Blank front)
    (starts : ∀ c, rest.head? = some c → Text.isBlank c = false) :
    (front ++ rest).dropWhile Text.isBlank = rest := by
  rw [List.dropWhile_append_of_pos blank]
  cases rest with
  | nil => rfl
  | cons c rest => simp [starts c rfl]

theorem trimChars_of_padded (single : Item item) (padded : Padded item text) :
    Text.trimChars text = item := by
  obtain @⟨front, back, before, behind⟩ := padded
  by_cases none : item = []
  · subst none
    exact trimChars_of_blank (blank_append.mpr ⟨blank_append.mpr ⟨before, by simp [Blank]⟩, behind⟩)
  have starts : ∀ c, (item ++ back).head? = some c → Text.isBlank c = false := by
    intro c leads
    rw [List.head?_append_of_ne_nil _ none] at leads
    exact single.starts c leads
  have ends : ∀ c, item.reverse.head? = some c → Text.isBlank c = false := by
    intro c leads
    rw [List.head?_reverse] at leads
    exact single.ends c leads
  have behind' : Blank back.reverse := fun c member => behind c (List.mem_reverse.mp member)
  rw [List.append_assoc, Text.trimChars, dropWhile_blank_append before starts,
    List.reverse_append, dropWhile_blank_append behind' ends, List.reverse_reverse]

/-- A text without commas is an item with white space around it. -/
theorem padded_trimChars (text : List Char) : Padded (Text.trimChars text) text := by
  obtain ⟨front, back, whole, before, behind⟩ := exists_of_trimChars text
  have padded : Padded (Text.trimChars text) (front ++ Text.trimChars text ++ back) :=
    .intro before behind
  rwa [whole] at padded

theorem starts_trimChars (text : List Char) :
    ∀ c, (Text.trimChars text).head? = some c → Text.isBlank c = false := by
  intro c leads
  have solid := List.head?_dropWhile_not Text.isBlank (Text.trimChars text)
  rw [dropWhile_trimChars, leads] at solid
  simpa using solid

theorem ends_trimChars (text : List Char) :
    ∀ c, (Text.trimChars text).getLast? = some c → Text.isBlank c = false := by
  intro c closes
  rw [Text.trimChars, List.getLast?_reverse] at closes
  have solid := List.head?_dropWhile_not Text.isBlank (text.dropWhile Text.isBlank).reverse
  rw [closes] at solid
  simpa using solid

theorem item_trimChars (free : ',' ∉ text) : Item (Text.trimChars text) := by
  obtain ⟨front, back, whole, -, -⟩ := exists_of_trimChars text
  refine ⟨fun member => free ?_, starts_trimChars text, ends_trimChars text⟩
  rw [← whole]
  simp [member]

/-- White space adds no other characters. -/
theorem not_mem_of_padded (solid : Text.isBlank c = false) (absent : c ∉ item)
    (padded : Padded item text) : c ∉ text := by
  obtain ⟨before, behind⟩ := padded
  intro member
  simp only [List.mem_append] at member
  rcases member with (inFront | inside) | inBack
  · cases solid.symm.trans (before _ inFront)
  · exact absent inside
  · cases solid.symm.trans (behind _ inBack)

theorem no_comma_of_padded (single : Item item) (padded : Padded item text) : ',' ∉ text :=
  not_mem_of_padded (by decide) single.single padded

theorem items_of_separated (separated : Separated items text) :
    (Text.parts (· == ',') text).map Text.trimChars = items := by
  have free : ∀ {item text : List Char}, Item item → Padded item text →
      ∀ c ∈ text, (c == ',') = false := by
    rintro item text single padded c member
    rw [beq_eq_false_iff_ne]
    rintro rfl
    exact no_comma_of_padded single padded member
  rw [parts_eq_splitOnP]
  induction separated with
  | one single padded =>
    rw [List.splitOnP_eq_singleton (free single padded)]
    simp [trimChars_of_padded single padded]
  | more single padded _ ih =>
    rw [List.splitOnP_append_cons_of_forall_mem (free single padded) ',' rfl, List.map_cons, ih,
      trimChars_of_padded single padded]

/-- Every text is items with commas between them. -/
theorem exists_separated (text : List Char) : ∃ items, Separated items text := by
  induction text with
  | nil => exact ⟨[Text.trimChars []], .one (item_trimChars (by simp)) (padded_trimChars [])⟩
  | cons c rest ih =>
    obtain ⟨items, separated⟩ := ih
    by_cases comma : c = ','
    · subst comma
      exact ⟨Text.trimChars [] :: items,
        .more (item_trimChars (by simp)) (padded_trimChars []) separated⟩
    -- The character belongs to the first part, whose item is found anew.
    · have longer : ∀ {part item : List Char}, Item item → Padded item part → ',' ∉ c :: part := by
        intro part item single padded
        simp [Ne.symm comma, no_comma_of_padded single padded]
      cases separated with
      | one single padded =>
        exact ⟨_, .one (item_trimChars (longer single padded)) (padded_trimChars _)⟩
      | more single padded behind =>
        exact ⟨_, .more (item_trimChars (longer single padded)) (padded_trimChars _) behind⟩

theorem Padded.around (before : Blank front) (behind : Blank back) (padded : Padded item text) :
    Padded item (front ++ text ++ back) := by
  obtain @⟨inFront, inBack, first, last⟩ := padded
  have wider : Padded item (front ++ inFront ++ item ++ (inBack ++ back)) :=
    .intro (blank_append.mpr ⟨before, first⟩) (blank_append.mpr ⟨last, behind⟩)
  simpa only [List.append_assoc] using wider

/-- White space around a list belongs to its first and to its last item. -/
theorem Separated.around (before : Blank front) (behind : Blank back)
    (separated : Separated items text) : Separated items (front ++ text ++ back) := by
  have noGap : Blank [] := by simp [Blank]
  induction separated generalizing front with
  | one single padded => exact .one single (padded.around before behind)
  | more single padded _ ih =>
    have wider := Separated.more single (padded.around before noGap) (ih noGap)
    simpa using wider

/-- The items that are read from a text are those that it lists. -/
theorem items_eq_iff : Text.items text = items ↔ Listed items text := by
  have reads : ¬ Blank text →
      Text.items text = (Text.parts (· == ',') text).map Text.trimChars := by
    intro filled
    obtain ⟨front, back, whole, before, behind⟩ := exists_of_trimChars text
    obtain ⟨inner, separated⟩ := exists_separated (Text.trimChars text)
    have around : Separated inner text := by
      have wider := separated.around before behind
      rwa [whole] at wider
    have trimmed : Text.items text =
        (Text.parts (· == ',') (Text.trimChars text)).map Text.trimChars := by
      unfold Text.items
      split
      · rename_i nothing
        exact absurd (blank_of_trimChars nothing) filled
      · rfl
    rw [trimmed, items_of_separated separated, items_of_separated around]
  by_cases blank : Blank text
  · have none : Text.items text = [] := by
      rw [Text.items, trimChars_of_blank blank]
    simp [Listed, none, blank, eq_comm]
  · obtain ⟨inner, separated⟩ := exists_separated text
    have known := (reads blank).trans (items_of_separated separated)
    constructor
    · rintro rfl
      exact .inr ⟨blank, known ▸ separated⟩
    · rintro (⟨-, all⟩ | ⟨-, separated⟩)
      · exact absurd all blank
      · rw [reads blank, items_of_separated separated]

/-- White space and commas add no other characters. -/
theorem not_mem_of_listed (solid : Text.isBlank c = false) (other : c ≠ ',')
    (absent : ∀ item ∈ items, c ∉ item) (listed : Listed items text) : c ∉ text := by
  rcases listed with ⟨-, blank⟩ | ⟨-, separated⟩
  · intro member
    cases solid.symm.trans (blank c member)
  · induction separated with
    | one _ padded => exact not_mem_of_padded solid (absent _ List.mem_cons_self) padded
    | more _ padded _ ih =>
      obtain ⟨here, later⟩ := List.forall_mem_cons.mp absent
      simp [not_mem_of_padded solid here padded, other, ih later]

/-- Items are written one after the other with a comma and a space between them. -/
theorem listed_intercalate (single : ∀ item ∈ items, Item item)
    (given : ∀ item ∈ items, item ≠ []) : Listed items ([',', ' '].intercalate items) := by
  have noGap : Blank [] := by simp [Blank]
  have space : Blank [' '] := by simp [Blank]; decide
  cases items with
  | nil => exact .inl ⟨rfl, noGap⟩
  | cons item rest =>
    refine .inr ⟨fun blank => ?_, ?_⟩
    · obtain ⟨c, more, rfl⟩ := List.exists_cons_of_ne_nil (given item List.mem_cons_self)
      have solid := (single _ List.mem_cons_self).starts c rfl
      have starts : c ∈ [',', ' '].intercalate ((c :: more) :: rest) := by
        cases rest <;> simp
      cases solid.symm.trans (blank c starts)
    · clear given
      have alone : ∀ {item : List Char}, Padded item item := by
        intro item
        have bare : Padded item ([] ++ item ++ []) := .intro noGap noGap
        simpa using bare
      induction rest generalizing item with
      | nil => exact .one (single item List.mem_cons_self) (by simpa using alone)
      | cons next rest ih =>
        obtain ⟨here, later⟩ := List.forall_mem_cons.mp single
        have behind := (ih next later).around space noGap
        rw [List.intercalate_cons_cons, List.append_assoc]
        exact .more here alone (by simpa using behind)

end Crosscut.TextLists
