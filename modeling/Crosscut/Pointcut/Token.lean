import Crosscut.Pointcut.Clause
import Crosscut.Pointcut.Error
import Crosscut.Text.Alphanumeric

/-! The tokens of a pointcut expression. A clause is one token: its word, then its body in
balanced parentheses, which is kept as written and read later. Offsets count bytes of UTF-8 from
the start of the expression, so the offset of a token is the length of what stands before it. -/
namespace Crosscut

/-- A clause as written: its word, what the word means, and the trimmed text between its
parentheses. -/
structure RawClause where
  keyword : String
  kind : ClauseKind
  body : String
deriving DecidableEq, Repr

/-- The text of a clause without the spacing around its body. -/
def RawClause.text (c : RawClause) : String :=
  c.keyword ++ "(" ++ c.body ++ ")"

/-- What a token is. -/
inductive TokenKind where
  | clause (raw : RawClause)
  | and | or | not
  | opening | closing
deriving DecidableEq, Repr

def TokenKind.text : TokenKind → String
  | .clause raw => raw.text
  | .and => "&&"
  | .or => "||"
  | .not => "!"
  | .opening => "("
  | .closing => ")"

/-- A token and where it starts. -/
structure Token where
  kind : TokenKind
  offset : Nat
deriving DecidableEq, Repr

/-- Why a text cannot be cut into tokens. -/
inductive LexFault where
  | stray (offset : Nat) (found : Char)
  | unclosed (offset : Nat)
  | noBody (offset : Nat) (found : Option Char)
  | unknownWord (offset : Nat) (word : String)
deriving DecidableEq, Repr

/-- The error for an expression that cannot be cut into tokens. -/
def LexFault.toError (expression : String) : LexFault → ParseError
  | .stray offset found => .unexpectedCharacter expression offset found
  | .unclosed offset => .unbalancedParentheses expression offset
  | .noBody offset found =>
    .unexpectedToken expression offset (String.ofList found.toList) .parenthesis
  | .unknownWord offset word => .unknownClause expression offset word

namespace Token

/-- The characters of names: letters and numbers, underscores, dollar signs and dots. -/
def isNameChar (c : Char) : Bool :=
  Text.isAlphanumeric c || c == '_' || c == '$' || c == '.'

/-- What stands before and after the parenthesis that closes the one already read, with a number
of inner ones still open. -/
def untilClosed : Nat → List Char → Option (List Char × List Char)
  | _, [] => none
  | 0, ')' :: rest => some ([], rest)
  | depth + 1, ')' :: rest => (untilClosed depth rest).map fun (body, after) => (')' :: body, after)
  | depth, '(' :: rest =>
    (untilClosed (depth + 1) rest).map fun (body, after) => ('(' :: body, after)
  | depth, c :: rest => (untilClosed depth rest).map fun (body, after) => (c :: body, after)

/-- Closing a parenthesis consumes the body and the parenthesis. -/
theorem untilClosed_eq {depth : Nat} {cs body after : List Char}
    (closed : untilClosed depth cs = some (body, after)) : cs = body ++ ')' :: after := by
  fun_induction untilClosed depth cs generalizing body with
  | case1 => cases closed
  | case2 rest => cases closed; rfl
  | case3 depth rest ih | case4 depth rest ih | case5 depth c rest _ _ _ ih =>
    obtain ⟨⟨inner, remaining⟩, found, same⟩ := Option.map_eq_some_iff.mp closed
    cases same
    rw [ih found]
    rfl

/-- Reads a clause that starts at an offset with the given first character: the clause, the offset
behind it and the text behind it. -/
def readClause (offset : Nat) (first : Char) (cs : List Char) :
    Except LexFault (RawClause × Nat × List Char) :=
  let word := first :: cs.takeWhile isNameChar
  let behindWord := cs.dropWhile isNameChar
  let spacing := behindWord.takeWhile Text.isBlank
  let opening := offset + Text.byteLength word + Text.byteLength spacing
  match behindWord.dropWhile Text.isBlank with
  | '(' :: inside =>
    match untilClosed 0 inside with
    | none => .error (.unclosed opening)
    | some (body, after) =>
      match ClauseKind.ofKeyword? (String.ofList word) with
      | none => .error (.unknownWord offset (String.ofList word))
      | some kind =>
        .ok (⟨String.ofList word, kind, String.ofList (Text.trimChars body)⟩,
          opening + Text.byteLength body + 2, after)
  | other => .error (.noBody opening other.head?)

/-- A clause takes its word, its body and two parentheses off the text. -/
theorem readClause_length {offset : Nat} {first : Char} {cs : List Char} {raw : RawClause}
    {next : Nat} {after : List Char} (read : readClause offset first cs = .ok (raw, next, after)) :
    after.length < cs.length := by
  simp only [readClause] at read
  split at read
  · rename_i inside rest
    split at read
    · cases read
    · rename_i body remaining closed
      split at read
      · cases read
      · cases read
        have inner := congrArg List.length (untilClosed_eq closed)
        have outer := congrArg List.length rest
        have dropped := (List.dropWhile_sublist (l := cs.dropWhile isNameChar) Text.isBlank).length_le
        have kept := (List.dropWhile_sublist (l := cs) isNameChar).length_le
        simp only [List.length_cons, List.length_append] at inner outer
        omega
  · cases read

/-- The tokens of a text that starts at an offset. -/
def lex (offset : Nat) (cs : List Char) : Except LexFault (List Token) :=
  match cs with
  | [] => .ok []
  | '!' :: rest => (lex (offset + 1) rest).map (⟨.not, offset⟩ :: ·)
  | '(' :: rest => (lex (offset + 1) rest).map (⟨.opening, offset⟩ :: ·)
  | ')' :: rest => (lex (offset + 1) rest).map (⟨.closing, offset⟩ :: ·)
  | '&' :: '&' :: rest => (lex (offset + 2) rest).map (⟨.and, offset⟩ :: ·)
  | '|' :: '|' :: rest => (lex (offset + 2) rest).map (⟨.or, offset⟩ :: ·)
  | c :: rest =>
    if Text.isBlank c then lex (offset + c.utf8Size) rest
    else if c == '@' || isNameChar c then
      match _read : readClause offset c rest with
      | .error fault => .error fault
      | .ok (raw, next, after) => (lex next after).map (⟨.clause raw, offset⟩ :: ·)
    else .error (.stray offset c)
termination_by cs.length
decreasing_by
  all_goals simp_wf
  all_goals first | omega | (have shorter := readClause_length _read; omega)

def tokenize (expression : String) : Except ParseError (List Token) :=
  (lex 0 expression.toList).mapError (LexFault.toError expression)

end Token
end Crosscut
