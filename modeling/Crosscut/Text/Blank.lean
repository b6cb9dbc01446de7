import Crosscut.Text.Span

/-! White space: the code points of the Unicode property `White_Space`. The same class decides
what an expression may be spaced with and what trimming removes. -/
namespace Crosscut.Text

/-- Code points from 128 on with the property `White_Space`. -/
def blankSpans : List Span := [
  ⟨0x85, 0x85, 1⟩, ⟨0xa0, 0xa0, 1⟩, ⟨0x1680, 0x1680, 1⟩, ⟨0x2000, 0x200a, 1⟩,
  ⟨0x2028, 0x2029, 1⟩, ⟨0x202f, 0x202f, 1⟩, ⟨0x205f, 0x205f, 1⟩, ⟨0x3000, 0x3000, 1⟩]

def isBlank (c : Char) : Bool :=
  if c.toNat < 0x80 then c.toNat == 0x20 || (9 ≤ c.toNat && c.toNat ≤ 13)
  else Span.covers blankSpans c

end Crosscut.Text
