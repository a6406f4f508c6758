/-
White space: which characters count as blank, and the text between the outermost
characters that do not.
-/
namespace Rollout
namespace Text

/-- Blank characters are the ASCII controls from tab to carriage return, the
Unicode space separators, the two Unicode line separators and the byte order
mark. U+0085 and the zero-width space are not among them. -/
def isBlankChar (c : Char) : Bool :=
  let code := c.toNat
  (decide (0x09 ≤ code) && decide (code ≤ 0x0D)) || code == 0x20 || code == 0xA0
    || code == 0x1680 || (decide (0x2000 ≤ code) && decide (code ≤ 0x200A))
    || code == 0x2028 || code == 0x2029 || code == 0x202F || code == 0x205F
    || code == 0x3000 || code == 0xFEFF

/-- A text is blank when nothing is left of it after trimming. -/
def isBlank (s : String) : Bool := s.toList.all isBlankChar

/-- The text without the blank characters at either end. -/
def trim (s : String) : String :=
  String.ofList ((s.toList.dropWhile isBlankChar).reverse.dropWhile isBlankChar).reverse

end Text
end Rollout
