/-! Runs of code points. A class of characters is listed as runs, so that a table of the Unicode
standard stays readable and membership is decided by comparing numbers. -/
namespace Crosscut.Text

/-- The code points `first`, `first + stride`, … up to `last`. -/
structure Span where
  first : Nat
  last : Nat
  stride : Nat

namespace Span

/-- Whether a code point lies in the run. -/
def contains (s : Span) (code : Nat) : Bool :=
  s.first ≤ code && code ≤ s.last && (code - s.first) % s.stride == 0

/-- Whether some run of a table holds the character. -/
def covers (table : List Span) (c : Char) : Bool :=
  table.any (·.contains c.toNat)

end Span
end Crosscut.Text
