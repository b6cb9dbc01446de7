import Crosscut.Proofs.DocumentLaws
import Crosscut.Proofs.TextLists
import Crosscut.Settings.StandIn

/-! Values that variables give to the stand-in library, and the keys that their names lead to. A value
written inside a text repeats no key and is not null, and neither is what its tables hold. -/
namespace Crosscut.InlineValues
open Literal Inline DocumentLaws

/-! ### Values -/

/-- Whatever is read is good. -/
def Reads {α : Type} {n : Nat} (good : α → Prop) (result : Option (AtMost α n)) : Prop :=
  ∀ read, result = some read → good read.1

variable {α β : Type} {n m : Nat}

theorem reads_none {good : α → Prop} : Reads good (none : Option (AtMost α n)) :=
  fun _ impossible => nomatch impossible

theorem reads_anything {result : Option (AtMost α n)} : Reads (fun _ => True) result :=
  fun _ _ => trivial

theorem reads_some {good : α → Prop} {a : α} (known : good a)
    (rest : { rest : List Char // rest.length ≤ n }) : Reads good (some (a, rest)) := by
  rintro read ⟨⟩
  exact known

theorem reads_map {good : α → Prop} {other : β → Prop} {result : Option (AtMost α n)}
    (reads : Reads good result) {change : α → β} (passes : ∀ a, good a → other (change a))
    (le : n ≤ m) : Reads other (result.map fun read => (read.map change).within le) := by
  intro read found
  obtain ⟨⟨a, rest⟩, known, rfl⟩ := Option.map_eq_some_iff.mp found
  exact passes a (reads _ known)

theorem tidy_text (written : String) : Tidy False (.text written) :=
  .plain (by simp [IsTable]) (by simp)

theorem tidy_word (cs : List Char) : Tidy False (word cs) := by
  unfold word
  split
  · exact .plain (by simp [IsTable]) (by simp)
  · split
    · exact .plain (by simp [IsTable]) (by simp)
    · exact tidy_text _

/-- A value is tidy if the shorter tables in it are. -/
theorem tidy_bare {cs : List Char}
    (shorter : ∀ rest : List Char, rest.length < cs.length →
      Reads (fun found => Tidy False (.table found)) (fields rest)) :
    Reads (Tidy False) (bare cs) := by
  have bool : ∀ b, Tidy False (.bool b) := fun b => .plain (by simp [IsTable]) (by simp)
  have list : ∀ found, Tidy False (.list found) := fun found => .plain (by simp [IsTable]) (by simp)
  rw [bare.eq_def]
  split
  · exact reads_some (bool true) _
  · split
    · exact reads_some (bool false) _
    · split
      · exact reads_map reads_anything (fun found _ => list found) _
      · exact reads_map (shorter _ (Nat.lt_succ_self _)) (fun _ tidy => tidy) _
      · exact reads_map reads_anything (fun _ _ => tidy_text _) _
      · exact reads_some (tidy_text _) _
      · exact reads_none
      · exact reads_some (tidy_word _) _

theorem tidy_value {cs : List Char} (plain : Reads (Tidy False) (bare (cs.dropWhile isGap))) :
    Reads (Tidy False) (value cs) := by
  intro read found
  rw [value] at found
  obtain ⟨⟨v, rest⟩, known, rfl⟩ := Option.map_eq_some_iff.mp found
  exact plain _ known

theorem tidy_fields {cs : List Char}
    (values : ∀ rest : List Char, rest.length < cs.length → Reads (Tidy False) (value rest))
    (shorter : ∀ rest : List Char, rest.length < cs.length →
      Reads (fun found => Tidy False (.table found)) (fields rest)) :
    Reads (fun found => Tidy False (.table found)) (fields cs) := by
  rw [fields]
  split
  · rintro read ⟨⟩
    exact tidy_empty
  · split
    · exact reads_none
    · rename_i name written inside _
      split
      · exact reads_none
      · rename_i v rest atMost known
        have tidy : Tidy False v := values written inside _ known
        dsimp only
        split
        · exact reads_some (.table (List.nodup_singleton name) (by simpa using tidy)) _
        · rename_i after fewer _ _
          have left : after.length < cs.length :=
            Nat.lt_trans fewer (Nat.lt_of_le_of_lt atMost inside)
          refine reads_map (shorter after left) (fun found others => ?_) _
          split
          · exact others
          · rename_i fresh
            cases others with
            | plain other _ => exact absurd ⟨found, rfl⟩ other
            | table distinct each =>
              refine .table (List.nodup_cons.mpr ⟨fun member => fresh ?_, distinct⟩)
                (List.forall_mem_cons.mpr ⟨tidy, each⟩)
              obtain ⟨field, there, same⟩ := List.mem_map.mp member
              exact List.any_eq_true.mpr ⟨field, there, by simpa using same⟩
        · exact reads_none

/-- The induction is on the length of the text: a table in it is shorter. -/
theorem tidy_readers (n : Nat) : ∀ cs : List Char, cs.length = n →
    Reads (Tidy False) (value cs) ∧ Reads (fun found => Tidy False (.table found)) (fields cs) := by
  induction n using Nat.strongRecOn with
  | ind n ih =>
    rintro cs rfl
    have gap := length_dropWhile_le isGap cs
    exact ⟨tidy_value (tidy_bare fun rest shorter => (ih _ (Nat.lt_of_lt_of_le shorter gap) rest rfl).2),
      tidy_fields (fun rest shorter => (ih _ shorter rest rfl).1)
        fun rest shorter => (ih _ shorter rest rfl).2⟩

/-- What a variable holds is a tidy value. -/
theorem tidy_literal (written : String) : Tidy False (literal written) := by
  unfold literal
  split
  · rename_i found _ known
    exact (tidy_readers _ _ rfl).1 _ known
  · exact tidy_text _

/-! ### Names -/

theorem keys_ne_nil {marker separator name : String} {keys : List String}
    (known : Variables.keys? marker separator name = some keys) : keys ≠ [] := by
  obtain ⟨behind, -, made⟩ := Option.bind_eq_some_iff.mp known
  dsimp only at made
  split at made
  · cases made
  · rw [← Option.some.inj made]
    simpa using Text.parts_ne_nil _ _

theorem lowered_append (front behind : String) :
    Variables.lowered (front ++ behind) = Variables.lowered front ++ Variables.lowered behind := by
  simp [Variables.lowered]

/-- What is known of the characters of plain keys. -/
theorem plainChars_spec : ∀ c ∈ plainChars,
    c.toUpper.toLower = c ∧ Text.isBlank c = false ∧ c ≠ '.' := by
  have checked : plainChars.all (fun c =>
      c.toUpper.toLower == c && !Text.isBlank c && c != '.') = true := by
    decide +kernel
  intro c member
  simpa [and_assoc] using List.all_eq_true.mp checked c member

theorem trimChars_of_solid {cs : List Char} (solid : ∀ c ∈ cs, Text.isBlank c = false) :
    Text.trimChars cs = cs := by
  have kept : ∀ text : List Char, (∀ c ∈ text, Text.isBlank c = false) →
      text.dropWhile Text.isBlank = text := by
    intro text solid
    cases text with
    | nil => rfl
    | cons c rest => rw [List.dropWhile_cons_of_neg (by simp [solid c])]
  rw [Text.trimChars, kept cs solid, kept cs.reverse (by simpa using solid), List.reverse_reverse]

theorem map_intercalate {α β : Type} (change : α → β) (separator : List α) (parts : List (List α)) :
    (separator.intercalate parts).map change =
      (separator.map change).intercalate (parts.map (·.map change)) := by
  induction parts with
  | nil => rfl
  | cons part parts ih =>
    cases parts with
    | nil => simp
    | cons next parts =>
      rw [List.intercalate_cons_cons, List.map_append, List.map_append, ih]
      exact List.intercalate_cons_cons.symm

theorem solid_intercalate {separator : List Char} {parts : List (List Char)}
    (between : ∀ c ∈ separator, Text.isBlank c = false)
    (inside : ∀ part ∈ parts, ∀ c ∈ part, Text.isBlank c = false) :
    ∀ c ∈ separator.intercalate parts, Text.isBlank c = false := by
  induction parts with
  | nil => simp
  | cons part parts ih =>
    obtain ⟨here, later⟩ := List.forall_mem_cons.mp inside
    cases parts with
    | nil => simpa using here
    | cons next parts =>
      rw [List.intercalate_cons_cons]
      exact List.forall_mem_append.mpr ⟨List.forall_mem_append.mpr ⟨here, between⟩, ih later⟩

/-- Keys in capitals are the keys again in lower case. -/
theorem lowered_capitals {keys : List String} (plain : ∀ key ∈ keys, PlainKey key) :
    Variables.lowered (Variables.separator.intercalate (keys.map (·.map Char.toUpper))) =
      ['_', '_'].intercalate (keys.map String.toList) := by
  have same : ∀ key ∈ keys, (key.map Char.toUpper).toList.map Char.toLower = key.toList := by
    intro key member
    rw [String.toList_map, List.map_map]
    exact (List.map_congr_left fun c there =>
      (plainChars_spec c ((plain key member).chars c there)).1).trans (List.map_id _)
  rw [Variables.lowered, String.toList_intercalate, map_intercalate, List.map_map, List.map_map]
  exact congrArg (List.intercalate ['_', '_']) (List.map_congr_left same)

/-- A text without the separator stays as it is. -/
theorem dotted_of_apart {cs : List Char} (apart : ¬ ['_', '_'] <:+: cs) :
    Variables.dotted ['_', '_'] 0 cs = cs := by
  induction cs with
  | nil => rfl
  | cons c rest ih =>
    have here : List.isPrefixOf ['_', '_'] (c :: rest) = false := by
      rw [← Bool.not_eq_true, List.isPrefixOf_iff_prefix]
      exact fun front => apart front.isInfix
    have behind : ¬ ['_', '_'] <:+: rest :=
      fun inside => apart (inside.trans (List.suffix_cons c rest).isInfix)
    rw [Variables.dotted, here, if_neg Bool.false_ne_true, ih behind]

/-- The separator behind a key becomes a dot. -/
theorem dotted_append {cs : List Char} (apart : ¬ ['_', '_'] <:+: cs)
    (closed : cs.getLast? ≠ some '_') (rest : List Char) :
    Variables.dotted ['_', '_'] 0 (cs ++ ['_', '_'] ++ rest) =
      cs ++ '.' :: Variables.dotted ['_', '_'] 0 rest := by
  induction cs with
  | nil => rfl
  | cons c cs ih =>
    -- The separator does not start before the key ends: the key holds none, and its last character
    -- is no underscore.
    have here : List.isPrefixOf ['_', '_'] (c :: (cs ++ ['_', '_'] ++ rest)) = false := by
      cases cs with
      | nil =>
        have other : c ≠ '_' := by simpa using closed
        simp [List.isPrefixOf, Ne.symm other]
      | cons d cs =>
        rw [← Bool.not_eq_true]
        intro front
        simp only [List.cons_append, List.isPrefixOf, Bool.and_true, Bool.and_eq_true,
          beq_iff_eq] at front
        obtain ⟨rfl, rfl⟩ := front
        exact apart (List.prefix_append ['_', '_'] cs).isInfix
    have ends : cs.getLast? ≠ some '_' := by
      cases cs with
      | nil => simp
      | cons d cs => simpa using closed
    have behind : ¬ ['_', '_'] <:+: cs :=
      fun inside => apart (inside.trans (List.suffix_cons c cs).isInfix)
    rw [List.cons_append, List.cons_append, Variables.dotted, here, if_neg Bool.false_ne_true,
      ih behind ends]
    rfl

theorem dotted_intercalate {parts : List (List Char)}
    (apart : ∀ part ∈ parts, ¬ ['_', '_'] <:+: part)
    (closed : ∀ part ∈ parts, part.getLast? ≠ some '_') :
    Variables.dotted ['_', '_'] 0 (['_', '_'].intercalate parts) = ['.'].intercalate parts := by
  induction parts with
  | nil => rfl
  | cons part parts ih =>
    obtain ⟨here, others⟩ := List.forall_mem_cons.mp apart
    obtain ⟨ends, later⟩ := List.forall_mem_cons.mp closed
    cases parts with
    | nil => simpa using dotted_of_apart here
    | cons next parts =>
      rw [List.intercalate_cons_cons, List.intercalate_cons_cons, dotted_append here ends,
        ih others later]
      simp

/-- Plain keys are found in the name that is made of them. -/
theorem keys_nameOf {keys : List String} (some : keys ≠ []) (plain : ∀ key ∈ keys, PlainKey key) :
    Variables.keys? Variables.marker Variables.separator (nameOf keys) = .some keys := by
  have chars : ∀ part ∈ keys.map String.toList, ∀ c ∈ part, Text.isBlank c = false ∧ c ≠ '.' :=
    List.forall_mem_map.mpr fun key listed c there =>
      (plainChars_spec c ((plain key listed).chars c there)).2
  have solid : ∀ part ∈ keys.map String.toList, ∀ c ∈ part, Text.isBlank c = false :=
    fun part member c there => (chars part member c there).1
  have dot : ∀ c ∈ ['.'], Text.isBlank c = false := List.forall_mem_singleton.mpr rfl
  have marked : ∀ c ∈ Variables.lowered Variables.marker, Text.isBlank c = false := by
    have checked : (Variables.lowered Variables.marker).all (!Text.isBlank ·) = true := by
      decide +kernel
    simpa using List.all_eq_true.mp checked
  have shape : Variables.lowered (nameOf keys) =
      Variables.lowered Variables.marker ++ ['_', '_'].intercalate (keys.map String.toList) := by
    rw [nameOf, lowered_append, lowered_capitals plain]
  have trimmed : Text.trimChars (Variables.lowered (nameOf keys)) = Variables.lowered (nameOf keys) := by
    refine trimChars_of_solid ?_
    rw [shape]
    exact List.forall_mem_append.mpr ⟨marked, solid_intercalate (by simp [Text.isBlank]) solid⟩
  have dotted : Variables.dotted (Variables.lowered Variables.separator) 0
      (['_', '_'].intercalate (keys.map String.toList)) =
        ['.'].intercalate (keys.map String.toList) :=
    dotted_intercalate (List.forall_mem_map.mpr fun key listed => (plain key listed).apart)
      (List.forall_mem_map.mpr fun key listed => (plain key listed).closed)
  have parts : Text.parts (· == '.') (['.'].intercalate (keys.map String.toList)) =
      keys.map String.toList := by
    rw [TextLists.parts_eq_splitOnP]
    exact List.splitOn_intercalate '.' (fun part member dot => (chars part member _ dot).2 rfl)
      (by simpa using some)
  have filled : ¬ (keys.any String.isEmpty = true) := by
    rw [List.any_eq_true]
    rintro ⟨key, listed, empty⟩
    exact (plain key listed).nonempty (String.isEmpty_iff.mp empty)
  have back : (keys.map String.toList).map String.ofList = keys := by simp
  rw [Variables.keys?, trimmed, shape, List.isPrefixOf?_eq_some_iff_append_eq.mpr rfl,
    Option.bind_some, dotted, trimChars_of_solid (solid_intercalate dot solid)]
  dsimp only
  rw [parts, back, if_neg filled]

/-- The stand-in library reads variables as the loader relies on it. -/
theorem standIn_variables : ReadsVariables .standIn where
  each _ _ _ := rfl
  some_keys := keys_ne_nil
  named := keys_nameOf
  tidy := tidy_literal

end Crosscut.InlineValues
