import Crosscut.Literal
import Crosscut.Text.Split

/-! Values written inside a text, as variables give them. A value is a word for a truth value, a text
between double quotes, a character between single quotes, a list in brackets, a table in braces, or
a plain word that runs up to the next comma, bracket or brace. A plain word that is a number within
64 bits stands for that number, and so does one with a point. Gaps around values are left out. A
text that is not one value as a whole stands for itself.

Each reader returns what it has left over, with a proof that it is no longer than before, so the
recursion ends with the text. -/
namespace Crosscut.Inline

/-- Whether a character may stand in the gaps around values. -/
def isGap (c : Char) : Bool :=
  c == ' ' || c == '\t' || c == '\n' || c == '\x0c' || c == '\r'

def endsWord (c : Char) : Bool :=
  c == ',' || c == '[' || c == ']' || c == '\x7b' || c == '\x7d'

/-- Whether a character may stand in a key without quotes. -/
def isKeyChar (c : Char) : Bool :=
  c.isAlphanum || c == '_' || c == '-'

/-- A reading and at most `n` characters behind it. -/
abbrev AtMost (α : Type) (n : Nat) : Type :=
  α × { rest : List Char // rest.length ≤ n }

theorem length_dropWhile_le (test : Char → Bool) (cs : List Char) :
    (cs.dropWhile test).length ≤ cs.length :=
  (List.dropWhile_sublist test).length_le

namespace AtMost

variable {α β : Type} {n m : Nat}

/-- Puts what a reading gives into another form. -/
def map (f : α → β) : AtMost α n → AtMost β n
  | (a, rest) => (f a, rest)

/-- The same reading as part of a longer text. -/
def within (le : n ≤ m) : AtMost α n → AtMost α m
  | (a, ⟨rest, atMost⟩) => (a, ⟨rest, Nat.le_trans atMost le⟩)

def pastGap : AtMost α n → AtMost α n
  | (a, ⟨rest, atMost⟩) =>
    (a, ⟨rest.dropWhile isGap, Nat.le_trans (length_dropWhile_le isGap rest) atMost⟩)

end AtMost

/-- What stands behind a sign at the start of a text. -/
def behind? (sign : Char) : (cs : List Char) → Option { rest : List Char // rest.length < cs.length }
  | [] => none
  | c :: rest => if c = sign then some ⟨rest, Nat.lt_succ_self _⟩ else none

/-! ### Numbers -/

/-- A text without the sign at its start. -/
def unsigned : List Char → List Char
  | '+' :: rest => rest
  | '-' :: rest => rest
  | cs => cs

def isDigits (cs : List Char) : Bool :=
  !cs.isEmpty && cs.all Char.isDigit

/-- The number that digits stand for. -/
def digitsValue (cs : List Char) : Nat :=
  cs.foldl (fun n c => 10 * n + (c.toNat - '0'.toNat)) 0

/-- The whole number that a word stands for, where one without a minus sign has 64 bits and one
with it 63. -/
def integer? : List Char → Option Int
  | '-' :: digits =>
    if isDigits digits = true ∧ digitsValue digits ≤ 9223372036854775808 then
      some (-(digitsValue digits : Int))
    else none
  | word =>
    if isDigits (unsigned word) = true ∧ digitsValue (unsigned word) ≤ 18446744073709551615 then
      some (digitsValue (unsigned word))
    else none

/-- Whether a text is nothing, or the mark of an exponent and a number. -/
def isExponent : List Char → Bool
  | [] => true
  | c :: rest => (c == 'e' || c == 'E') && isDigits (unsigned rest)

/-- Whether a word is a number with a point. -/
def isDecimal (word : List Char) : Bool :=
  let digits := unsigned word
  match digits.dropWhile Char.isDigit with
  | '.' :: rest =>
    (!(digits.takeWhile Char.isDigit).isEmpty || !(rest.takeWhile Char.isDigit).isEmpty) &&
      isExponent (rest.dropWhile Char.isDigit)
  | _ => false

def word (cs : List Char) : Literal :=
  if isDecimal cs then .decimal (String.ofList cs)
  else match integer? cs with
    | some n => .integer n
    | none => .text (String.ofList cs)

/-! ### Texts between quotes -/

/-- The value of a digit to the base sixteen. -/
def hexValue? (c : Char) : Option Nat :=
  if c.isDigit then some (c.toNat - '0'.toNat)
  else if 'a' ≤ c ∧ c ≤ 'f' then some (c.toNat - 'a'.toNat + 10)
  else if 'A' ≤ c ∧ c ≤ 'F' then some (c.toNat - 'A'.toNat + 10)
  else none

/-- The character whose code point is written with as many digits as the width says. -/
def coded? (width : Nat) (digits : List Char) : Option Char :=
  match digits.mapM hexValue? with
  | none => none
  | some values =>
    let code := values.foldl (fun n value => 16 * n + value) 0
    if values.length = width ∧ code.isValidChar then some (Char.ofNat code) else none

/-- What a backslash and a character stand for, and how many digits after them belong to it. -/
def escaped? (c : Char) (rest : List Char) : Option (Char × Nat) :=
  match c with
  | '"' | '\\' => some (c, 0)
  | 'b' => some ('\x08', 0)
  | 'f' => some ('\x0c', 0)
  | 'n' => some ('\n', 0)
  | 'r' => some ('\r', 0)
  | 't' => some ('\t', 0)
  | 'u' => (coded? 4 (rest.take 4)).map (·, 4)
  | 'U' => (coded? 8 (rest.take 8)).map (·, 8)
  | _ => none

/-- Reads a text up to the quote that closes it. -/
def unquote : (cs : List Char) → Option (AtMost (List Char) cs.length)
  | [] => none
  | c :: rest =>
    if c = '"' then some ([], ⟨rest, Nat.le_succ _⟩)
    else if c = '\\' then
      match rest with
      | [] => none
      | c :: rest =>
        (escaped? c rest).bind fun (stands, digits) =>
          (unquote (rest.drop digits)).map fun text =>
            (text.map (stands :: ·)).within (by simp; omega)
    else (unquote rest).map fun text => (text.map (c :: ·)).within (Nat.le_succ _)
termination_by cs => cs.length

/-- Reads the name of a key, which stands between double quotes or is made of plain characters. -/
def name : (cs : List Char) → Option (AtMost String cs.length)
  | '"' :: rest => (unquote rest).map fun text => (text.map String.ofList).within (Nat.le_succ _)
  | cs =>
    if (cs.takeWhile isKeyChar).isEmpty then none
    else some (String.ofList (cs.takeWhile isKeyChar),
      ⟨cs.dropWhile isKeyChar, length_dropWhile_le isKeyChar cs⟩)

/-- Reads a key and the equals sign behind it, so that fewer characters are left. -/
def key (cs : List Char) : Option (String × { rest : List Char // rest.length < cs.length }) :=
  match (name (cs.dropWhile isGap)).map AtMost.pastGap with
  | none => none
  | some (key, ⟨rest, atMost⟩) =>
    (behind? '=' rest).map fun ⟨after, fewer⟩ =>
      (key, ⟨after, Nat.lt_of_lt_of_le fewer
        (Nat.le_trans atMost (length_dropWhile_le isGap cs))⟩)

/-! ### Values -/

mutual

/-- Reads a value and the gaps around it. -/
def value (cs : List Char) : Option (AtMost Literal cs.length) :=
  (bare (cs.dropWhile isGap)).map fun read =>
    read.pastGap.within (length_dropWhile_le isGap cs)
termination_by (cs.length, 1)
decreasing_by
  rcases Nat.lt_or_eq_of_le (length_dropWhile_le isGap cs) with fewer | same
  · exact Prod.Lex.left _ _ fewer
  · rw [same]
    exact Prod.Lex.right _ Nat.zero_lt_one

/-- Reads a value without a gap in front of it. -/
def bare (cs : List Char) : Option (AtMost Literal cs.length) :=
  if "true".toList.isPrefixOf cs then some (.bool true, ⟨cs.drop 4, by simp⟩)
  else if "false".toList.isPrefixOf cs then some (.bool false, ⟨cs.drop 5, by simp⟩)
  else
    match cs with
    | '[' :: rest => (items rest).map fun read => (read.map .list).within (Nat.le_succ _)
    | '\x7b' :: rest => (fields rest).map fun read => (read.map .table).within (Nat.le_succ _)
    | '"' :: rest =>
      (unquote rest).map fun read => (read.map (.text ∘ String.ofList)).within (Nat.le_succ _)
    | '\'' :: c :: '\'' :: rest => some (.text (String.ofList [c]), ⟨rest, by simp; omega⟩)
    | '\'' :: _ => none
    | cs =>
      some (word (Text.trimChars (cs.takeWhile (!endsWord ·))),
        ⟨cs.dropWhile (!endsWord ·), length_dropWhile_le _ cs⟩)
termination_by (cs.length, 0)

/-- Reads the items of a list and the bracket that closes it. A comma may stand behind the last
item. -/
def items (cs : List Char) : Option (AtMost (List Literal) cs.length) :=
  match behind? ']' cs with
  | some ⟨rest, fewer⟩ => some ([], ⟨rest, Nat.le_of_lt fewer⟩)
  | none =>
    match value cs with
    | none => none
    | some (first, ⟨rest, atMost⟩) =>
      match behind? ']' rest, behind? ',' rest with
      | some ⟨after, fewer⟩, _ =>
        some ([first], ⟨after, Nat.le_trans (Nat.le_of_lt fewer) atMost⟩)
      | none, some ⟨after, fewer⟩ =>
        have left : after.length < cs.length := Nat.lt_of_lt_of_le fewer atMost
        (items after).map fun more => (more.map (first :: ·)).within (Nat.le_of_lt left)
      | none, none => none
termination_by (cs.length, 2)

/-- Reads the fields of a table and the brace that closes it. A comma may stand behind the last
field, and of two fields with one key the later one counts. -/
def fields (cs : List Char) : Option (AtMost (List (String × Literal)) cs.length) :=
  match behind? '\x7d' cs with
  | some ⟨rest, fewer⟩ => some ([], ⟨rest, Nat.le_of_lt fewer⟩)
  | none =>
    match key cs with
    | none => none
    | some (name, ⟨written, inside⟩) =>
      match value written with
      | none => none
      | some (first, ⟨rest, atMost⟩) =>
        have closer : rest.length < cs.length := Nat.lt_of_le_of_lt atMost inside
        match behind? '\x7d' rest, behind? ',' rest with
        | some ⟨after, fewer⟩, _ =>
          some ([(name, first)], ⟨after, Nat.le_of_lt (Nat.lt_trans fewer closer)⟩)
        | none, some ⟨after, fewer⟩ =>
          have left : after.length < cs.length := Nat.lt_trans fewer closer
          (fields after).map fun more =>
            (more.map fun later =>
              if later.any (·.1 == name) then later else (name, first) :: later).within
              (Nat.le_of_lt left)
        | none, none => none
termination_by (cs.length, 2)

end

def literal (written : String) : Literal :=
  match value written.toList with
  | some (found, ⟨[], _⟩) => found
  | _ => .text written

end Crosscut.Inline
