import Crosscut.Proofs.Lexemes
import Mathlib.Logic.ExistsUnique

/-! Cutting a text into tokens. A text is white space and lexemes in at most one way, and cutting
succeeds exactly when there is such a way: the tokens are its lexemes, each at the byte where it
starts. An error points at a place between characters. -/
namespace Crosscut.TextPieces
open Token TokenTexts Lexemes

/-- A piece of a text: a character of white space, or a lexeme. -/
inductive Piece where
  | blank (c : Char)
  | lexeme (text : List Char) (kind : TokenKind)

namespace Piece

def Valid : Piece → Prop
  | .blank c => Text.isBlank c = true
  | .lexeme text kind => Lexeme text kind

def chars : Piece → List Char
  | .blank c => [c]
  | .lexeme text _ => text

/-- The lexemes of a list of pieces, each at the number of bytes in front of it. -/
def tokens : Nat → List Piece → List Token
  | _, [] => []
  | offset, .blank c :: rest => tokens (offset + c.utf8Size) rest
  | offset, .lexeme text kind :: rest =>
    ⟨kind, offset⟩ :: tokens (offset + Text.byteLength text) rest

end Piece

/-- Pieces that make up a text. -/
structure Cuts (cs : List Char) (pieces : List Piece) : Prop where
  valid : ∀ piece ∈ pieces, piece.Valid
  whole : pieces.flatMap Piece.chars = cs

theorem cuts_cons {piece : Piece} {pieces : List Piece} {cs text : List Char}
    (valid : piece.Valid) (whole : text = piece.chars ++ cs) (behind : Cuts cs pieces) :
    Cuts text (piece :: pieces) :=
  ⟨List.forall_mem_cons.mpr ⟨valid, behind.valid⟩, by
    rw [List.flatMap_cons, behind.whole, whole]⟩

/-- A text that is cut into pieces has their lexemes as its tokens. -/
theorem lex_of_cuts {pieces : List Piece} {cs : List Char} (cuts : Cuts cs pieces) (offset : Nat) :
    lex offset cs = .ok (Piece.tokens offset pieces) := by
  obtain ⟨valid, rfl⟩ := cuts
  induction pieces generalizing offset with
  | nil =>
    rw [List.flatMap_nil, lex]
    rfl
  | cons piece rest ih =>
    obtain ⟨here, behind⟩ := List.forall_mem_cons.mp valid
    cases piece with
    | blank c =>
      have blank : Text.isBlank c = true := here
      simp only [List.flatMap_cons, Piece.chars, List.singleton_append]
      rw [lex_word (by simp [blank]), if_pos blank, ih _ behind]
      rfl
    | lexeme text kind =>
      simp only [List.flatMap_cons, Piece.chars]
      rw [lex_lexeme here, ih _ behind]
      rfl

/-- The tokens of a text are the lexemes of pieces that it is cut into. -/
theorem cuts_of_lex {offset : Nat} {cs : List Char} {ts : List Token}
    (cut : lex offset cs = .ok ts) : ∃ pieces, Cuts cs pieces ∧ Piece.tokens offset pieces = ts := by
  have token : ∀ {text rest : List Char} {kind : TokenKind} {next : Nat} {offset : Nat}
      {ts : List Token}, Lexeme text kind → next = offset + Text.byteLength text →
      (∀ {ts}, lex next rest = .ok ts → ∃ pieces, Cuts rest pieces ∧ Piece.tokens next pieces = ts) →
      (lex next rest).map (⟨kind, offset⟩ :: ·) = .ok ts →
      ∃ pieces, Cuts (text ++ rest) pieces ∧ Piece.tokens offset pieces = ts := by
    rintro text rest kind _ offset ts lexeme rfl behind cut
    obtain ⟨others, later, rfl⟩ := map_eq_ok.mp cut
    obtain ⟨pieces, cuts, rfl⟩ := behind later
    exact ⟨.lexeme text kind :: pieces, cuts_cons lexeme rfl cuts, rfl⟩
  fun_induction lex offset cs generalizing ts with
  | case1 offset =>
    cases cut
    exact ⟨[], ⟨by simp, rfl⟩, rfl⟩
  | case2 offset rest ih => exact token .not rfl ih cut
  | case3 offset rest ih => exact token .opening rfl ih cut
  | case4 offset rest ih => exact token .closing rfl ih cut
  | case5 offset rest ih => exact token .and rfl ih cut
  | case6 offset rest ih => exact token .or rfl ih cut
  | case7 offset c rest _ _ _ _ _ blank ih =>
    obtain ⟨pieces, cuts, rfl⟩ := ih cut
    exact ⟨.blank c :: pieces, cuts_cons blank rfl cuts, rfl⟩
  | case8 => cases cut
  | case9 offset c rest _ _ _ _ _ solid starts raw next after made ih =>
    obtain ⟨text, whole, lexeme, place⟩ := lexeme_of_readClause starts made
    rw [whole]
    exact token lexeme place ih cut
  | case10 => cases cut

/-! ### One way to cut -/

/-- A lexeme starts with no white space and ends with none. -/
theorem solid_ends {text : List Char} {kind : TokenKind} (lexeme : Lexeme text kind) :
    (∃ c rest, text = c :: rest ∧ Text.isBlank c = false) ∧
      ∃ front c, text = front ++ [c] ∧ Text.isBlank c = false := by
  cases lexeme with
  | and => exact ⟨⟨'&', ['&'], rfl, by decide⟩, ['&'], '&', rfl, by decide⟩
  | or => exact ⟨⟨'|', ['|'], rfl, by decide⟩, ['|'], '|', rfl, by decide⟩
  | not => exact ⟨⟨'!', [], rfl, by decide⟩, [], '!', rfl, by decide⟩
  | opening => exact ⟨⟨'(', [], rfl, by decide⟩, [], '(', rfl, by decide⟩
  | closing => exact ⟨⟨')', [], rfl, by decide⟩, [], ')', rfl, by decide⟩
  | clause keyword =>
    obtain ⟨first, name, rfl, starts, -⟩ := exists_of_keyword keyword
    exact ⟨⟨first, _, rfl, solid_of_starts starts⟩, _, ')', rfl, by decide⟩

/-- A text without tokens is white space. -/
theorem blank_of_no_token {pieces : List Piece} {cs : List Char} {offset : Nat}
    (cuts : Cuts cs pieces) (none : Piece.tokens offset pieces = []) :
    ∀ c ∈ cs, Text.isBlank c = true := by
  obtain ⟨valid, rfl⟩ := cuts
  induction pieces generalizing offset with
  | nil => simp
  | cons piece rest ih =>
    obtain ⟨here, behind⟩ := List.forall_mem_cons.mp valid
    cases piece with
    | blank c => exact List.forall_mem_cons.mpr ⟨here, ih none behind⟩
    | lexeme text kind => cases none

/-- No lexeme starts with another one: what would be left has to be white space, and a lexeme ends
with none. -/
theorem lexeme_of_prefix {text behind : List Char} {kind other : TokenKind}
    (short : Lexeme text kind) (long : Lexeme (text ++ behind) other) :
    behind = [] ∧ kind = other := by
  have whole : lex 0 (text ++ behind) = .ok [⟨other, 0⟩] := by
    have alone := lex_lexeme long 0 []
    rwa [List.append_nil, lex] at alone
  rw [lex_lexeme short 0 behind] at whole
  obtain ⟨ts, later, same⟩ := map_eq_ok.mp whole
  cases same
  refine ⟨?_, rfl⟩
  obtain ⟨pieces, cuts, none⟩ := cuts_of_lex later
  obtain ⟨-, front, last, ends, solid⟩ := solid_ends long
  rcases List.eq_nil_or_concat behind with rfl | ⟨inner, c, rfl⟩
  · rfl
  · have same : c = last := by
      rw [List.concat_eq_append, ← List.append_assoc] at ends
      exact List.singleton_inj.mp (List.append_inj_right' ends rfl)
    rw [← same, blank_of_no_token cuts none c (by simp)] at solid
    cases solid

/-- The first piece of a text and what is behind it. -/
theorem piece_unique {one other : Piece} {cs ds : List Char} (valid : one.Valid)
    (known : other.Valid) (same : one.chars ++ cs = other.chars ++ ds) : one = other ∧ cs = ds := by
  have apart : ∀ {c text kind} {cs ds : List Char}, Text.isBlank c = true → Lexeme text kind →
      [c] ++ cs ≠ text ++ ds := by
    intro c text kind cs ds blank lexeme same
    obtain ⟨⟨first, rest, rfl, solid⟩, -⟩ := solid_ends lexeme
    rw [← (List.cons.inj same).1, blank] at solid
    cases solid
  cases one with
  | blank c =>
    cases other with
    | blank d =>
      obtain ⟨rfl, behind⟩ := List.cons.inj same
      exact ⟨rfl, behind⟩
    | lexeme text kind => exact absurd same (apart valid known)
  | lexeme text kind =>
    cases other with
    | blank c => exact absurd same.symm (apart known valid)
    | lexeme word meaning =>
      rcases List.append_eq_append_iff.mp same with ⟨more, rfl, rfl⟩ | ⟨more, rfl, rfl⟩
      · obtain ⟨rfl, rfl⟩ := lexeme_of_prefix valid known
        simp [Piece.chars]
      · obtain ⟨rfl, rfl⟩ := lexeme_of_prefix known valid
        simp [Piece.chars]

theorem chars_ne_nil {piece : Piece} (valid : piece.Valid) : piece.chars ≠ [] := by
  cases piece with
  | blank c => exact List.cons_ne_nil _ _
  | lexeme text kind =>
    obtain ⟨⟨first, rest, rfl, -⟩, -⟩ := solid_ends valid
    exact List.cons_ne_nil _ _

/-- A text is cut into pieces in at most one way. -/
theorem cuts_unique {pieces others : List Piece} {cs : List Char} (cuts : Cuts cs pieces)
    (again : Cuts cs others) : pieces = others := by
  obtain ⟨valid, rfl⟩ := cuts
  obtain ⟨known, same⟩ := again
  induction pieces generalizing others with
  | nil =>
    cases others with
    | nil => rfl
    | cons other rest =>
      rw [List.flatMap_cons, List.flatMap_nil, List.append_eq_nil_iff] at same
      exact absurd same.1 (chars_ne_nil (known other List.mem_cons_self))
  | cons piece rest ih =>
    obtain ⟨here, behind⟩ := List.forall_mem_cons.mp valid
    cases others with
    | nil =>
      rw [List.flatMap_cons, List.flatMap_nil, eq_comm, List.append_eq_nil_iff] at same
      exact absurd same.1 (chars_ne_nil here)
    | cons other later =>
      obtain ⟨there, further⟩ := List.forall_mem_cons.mp known
      obtain ⟨rfl, remaining⟩ := piece_unique there here same
      rw [ih behind further remaining]

/-! ### Offsets -/

theorem byteLength_pos {text : List Char} (some : text ≠ []) : 0 < Text.byteLength text := by
  obtain ⟨c, rest, rfl⟩ := List.exists_cons_of_ne_nil some
  exact Nat.add_pos_left c.utf8Size_pos _

/-- Every token starts behind the ones before it. -/
theorem tokens_ascend {pieces : List Piece} (valid : ∀ piece ∈ pieces, piece.Valid) (offset : Nat) :
    (∀ token ∈ Piece.tokens offset pieces, offset ≤ token.offset) ∧
      (Piece.tokens offset pieces).Pairwise (·.offset < ·.offset) := by
  induction pieces generalizing offset with
  | nil => exact ⟨by simp [Piece.tokens], .nil⟩
  | cons piece rest ih =>
    obtain ⟨here, behind⟩ := List.forall_mem_cons.mp valid
    cases piece with
    | blank c =>
      obtain ⟨later, ascend⟩ := ih behind (offset + c.utf8Size)
      exact ⟨fun token member => (Nat.le_add_right _ _).trans (later token member), ascend⟩
    | lexeme text kind =>
      obtain ⟨later, ascend⟩ := ih behind (offset + Text.byteLength text)
      have wide := byteLength_pos (chars_ne_nil here)
      simp only [Piece.chars] at wide
      refine ⟨List.forall_mem_cons.mpr ⟨le_rfl, fun token member => ?_⟩,
        List.pairwise_cons.mpr ⟨fun token member => ?_, ascend⟩⟩
      · exact (Nat.le_add_right _ _).trans (later token member)
      · exact (Nat.lt_add_of_pos_right wide).trans_le (later token member)

/-! ### Display texts -/

/-- The display text of a token is a lexeme with the same token. -/
theorem lexeme_text {text : List Char} {kind : TokenKind} (lexeme : Lexeme text kind) :
    Lexeme kind.text.toList kind := by
  cases lexeme with
  | and => exact .and
  | or => exact .or
  | not => exact .not
  | opening => exact .opening
  | closing => exact .closing
  | clause keyword means blank balanced =>
    have trimmed := @Lexeme.clause _ [] _ _ keyword means (by simp) (closes_trimChars balanced)
    rw [trimChars_trimChars] at trimmed
    simpa [TokenKind.text, RawClause.text] using trimmed

/-- The pieces of the display texts of tokens, one after another. -/
def displayed (ts : List Token) : List Piece :=
  ts.map fun token => .lexeme token.kind.text.toList token.kind

theorem cuts_displayed {pieces : List Piece} (valid : ∀ piece ∈ pieces, piece.Valid) (offset : Nat) :
    Cuts (String.join ((Piece.tokens offset pieces).map (·.kind.text))).toList
      (displayed (Piece.tokens offset pieces)) := by
  refine ⟨?_, by simp [displayed, List.flatMap_map, Piece.chars]⟩
  induction pieces generalizing offset with
  | nil => simp [Piece.tokens, displayed]
  | cons piece rest ih =>
    obtain ⟨here, behind⟩ := List.forall_mem_cons.mp valid
    cases piece with
    | blank c => exact ih behind _
    | lexeme text kind => exact List.forall_mem_cons.mpr ⟨lexeme_text here, ih behind _⟩

theorem kinds_displayed (ts : List Token) (offset : Nat) :
    (Piece.tokens offset (displayed ts)).map Token.kind = ts.map Token.kind := by
  induction ts generalizing offset with
  | nil => rfl
  | cons token rest ih => exact congrArg (token.kind :: ·) (ih _)

/-! ### Places of errors -/

/-- A place in a text: the number of bytes of what stands in front of it. -/
def Place (offset : Nat) (cs : List Char) (place : Nat) : Prop :=
  ∃ front, front <+: cs ∧ place = offset + Text.byteLength front

theorem place_start (offset : Nat) (cs : List Char) : Place offset cs offset :=
  ⟨[], List.nil_prefix, rfl⟩

/-- A place behind the first part of a text. -/
theorem place_append {offset place : Nat} (text : List Char) {cs : List Char}
    (inside : Place (offset + Text.byteLength text) cs place) : Place offset (text ++ cs) place := by
  obtain ⟨front, before, rfl⟩ := inside
  exact ⟨text ++ front, (List.prefix_append_right_inj text).mpr before, by
    rw [byteLength_append, Nat.add_assoc]⟩

def faultOffset : LexFault → Nat
  | .stray offset _ | .unclosed offset | .noBody offset _ | .unknownWord offset _ => offset

/-- The offset that an error gives. -/
def errorOffset? : ParseError → Option Nat
  | .unexpectedCharacter _ offset _ | .unbalancedParentheses _ offset
  | .unknownClause _ offset _ | .unexpectedToken _ offset _ _ => some offset
  | _ => none

theorem errorOffset?_toError (expression : String) (fault : LexFault) :
    errorOffset? (fault.toError expression) = some (faultOffset fault) := by
  cases fault <;> rfl

/-- A clause fails at its start or where its body would open. -/
theorem place_of_readClause {offset : Nat} {first : Char} {cs : List Char} {fault : LexFault}
    (failed : readClause offset first cs = .error fault) :
    Place offset (first :: cs) (faultOffset fault) := by
  have opening : Place offset (first :: cs) (offset +
      Text.byteLength (first :: cs.takeWhile isNameChar) +
      Text.byteLength ((cs.dropWhile isNameChar).takeWhile Text.isBlank)) := by
    refine ⟨first :: cs.takeWhile isNameChar ++ (cs.dropWhile isNameChar).takeWhile Text.isBlank,
      ⟨(cs.dropWhile isNameChar).dropWhile Text.isBlank, ?_⟩, by rw [byteLength_append]; omega⟩
    rw [List.append_assoc, List.takeWhile_append_dropWhile, List.cons_append,
      List.takeWhile_append_dropWhile]
  simp only [readClause] at failed
  split at failed
  · split at failed
    · cases failed
      exact opening
    · split at failed
      · cases failed
        exact place_start offset _
      · cases failed
  · cases failed
    exact opening

/-- A fault lies at a place of the text. -/
theorem place_of_lex {offset : Nat} {cs : List Char} {fault : LexFault}
    (failed : lex offset cs = .error fault) : Place offset cs (faultOffset fault) := by
  have token : ∀ (text : List Char) {rest : List Char} {kind : TokenKind} {next offset : Nat},
      next = offset + Text.byteLength text →
      (lex next rest = .error fault → Place next rest (faultOffset fault)) →
      (lex next rest).map (⟨kind, offset⟩ :: ·) = .error fault →
      Place offset (text ++ rest) (faultOffset fault) := by
    rintro text rest kind _ offset rfl behind failed
    exact place_append text (behind (map_eq_error.mp failed))
  fun_induction lex offset cs with
  | case1 => cases failed
  | case2 offset rest ih => exact token ['!'] rfl ih failed
  | case3 offset rest ih => exact token ['('] rfl ih failed
  | case4 offset rest ih => exact token [')'] rfl ih failed
  | case5 offset rest ih => exact token ['&', '&'] rfl ih failed
  | case6 offset rest ih => exact token ['|', '|'] rfl ih failed
  | case7 offset c rest _ _ _ _ _ blank ih => exact place_append [c] (ih failed)
  | case8 offset c rest _ _ _ _ _ solid starts other made =>
    cases failed
    exact place_of_readClause made
  | case9 offset c rest _ _ _ _ _ solid starts raw next after made ih =>
    obtain ⟨text, whole, lexeme, place⟩ := lexeme_of_readClause starts made
    rw [whole]
    exact token text place ih failed
  | case10 offset c rest =>
    cases failed
    exact place_start offset _

theorem byteLength_eq (cs : List Char) : Text.byteLength cs = (String.ofList cs).utf8ByteSize := by
  induction cs with
  | nil => rfl
  | cons c rest ih => simp [Text.byteLength, ih, String.ofList_cons]

/-- A place of a text is in front of one of its characters or at its end. -/
theorem isValid_of_place {s : String} {place : Nat} (inside : Place 0 s.toList place) :
    (⟨place⟩ : String.Pos.Raw).IsValid s := by
  obtain ⟨front, ⟨back, whole⟩, rfl⟩ := inside
  refine String.Pos.Raw.isValid_iff_exists_append.mpr
    ⟨String.ofList front, String.ofList back, ?_, ?_⟩
  · rw [← String.ofList_append, whole, String.ofList_toList]
  · rw [Nat.zero_add, byteLength_eq]
    rfl

/-! ### Exactness -/

/-- Cutting a text into tokens succeeds exactly when the text is white space and lexemes. There is
one way to see it so, and the tokens are its lexemes with the bytes where they start, which ascend.
The display texts of the tokens, put together, are cut into the same tokens. An error points in
front of a character of the text or at its end. -/
theorem tokens_are_the_lexemes (s : String) :
    ((∃ ts, tokenize s = .ok ts) ↔ ∃ pieces, Cuts s.toList pieces) ∧
      (∀ ts, tokenize s = .ok ts →
        (∃! pieces, Cuts s.toList pieces) ∧
        (∀ pieces, Cuts s.toList pieces → ts = Piece.tokens 0 pieces) ∧
        ts.Pairwise (·.offset < ·.offset) ∧
        ∃ again, tokenize (String.join (ts.map (·.kind.text))) = .ok again ∧
          again.map Token.kind = ts.map Token.kind) ∧
      ∀ e, tokenize s = .error e →
        ∃ offset, errorOffset? e = some offset ∧ (⟨offset⟩ : String.Pos.Raw).IsValid s := by
  refine ⟨?_, fun ts cut => ?_, fun e failed => ?_⟩
  · constructor
    · rintro ⟨ts, cut⟩
      obtain ⟨pieces, cuts, -⟩ := cuts_of_lex (tokenize_eq_ok.mp cut)
      exact ⟨pieces, cuts⟩
    · rintro ⟨pieces, cuts⟩
      exact ⟨_, tokenize_eq_ok.mpr (lex_of_cuts cuts 0)⟩
  · obtain ⟨pieces, cuts, rfl⟩ := cuts_of_lex (tokenize_eq_ok.mp cut)
    refine ⟨⟨pieces, cuts, fun other again => cuts_unique again cuts⟩, fun other again => ?_,
      (tokens_ascend cuts.valid 0).2, _,
      tokenize_eq_ok.mpr (lex_of_cuts (cuts_displayed cuts.valid 0) 0), kinds_displayed _ 0⟩
    rw [cuts_unique again cuts]
  · unfold tokenize at failed
    cases stopped : lex 0 s.toList with
    | ok ts =>
      rw [stopped] at failed
      cases failed
    | error fault =>
      rw [stopped] at failed
      cases failed
      exact ⟨_, errorOffset?_toError s fault, isValid_of_place (place_of_lex stopped)⟩

/-- Offsets count bytes: the accented letter and the wide space take more than one. Behind a single
ampersand the text cannot be cut. -/
theorem accented_text_is_cut :
    (∃ ts, tokenize "é ( a(b)　) || !@within(T)" = .ok ts ∧
      ts.map Token.offset = [0, 14, 17, 18] ∧
      (∃! pieces, Cuts "é ( a(b)　) || !@within(T)".toList pieces) ∧
      ∃ again, tokenize (String.join (ts.map (·.kind.text))) = .ok again ∧
        again.map Token.kind = ts.map Token.kind) ∧
      tokenize "é(T) & b" = .error (.unexpectedCharacter "é(T) & b" 6 '&') ∧
      (⟨6⟩ : String.Pos.Raw).IsValid "é(T) & b" := by
  refine ⟨?_, ?_⟩
  · obtain ⟨ts, cut, places⟩ : ∃ ts, tokenize "é ( a(b)　) || !@within(T)" = .ok ts ∧
        ts.map Token.offset = [0, 14, 17, 18] := exists_ok_of_map (by decide +kernel)
    obtain ⟨single, -, -, again⟩ := (tokens_are_the_lexemes _).2.1 ts cut
    exact ⟨ts, cut, places, single, again⟩
  · have stopped : tokenize "é(T) & b" = .error (.unexpectedCharacter "é(T) & b" 6 '&') := by
      decide +kernel
    obtain ⟨offset, known, valid⟩ := (tokens_are_the_lexemes _).2.2 _ stopped
    cases known
    exact ⟨stopped, valid⟩

end Crosscut.TextPieces
