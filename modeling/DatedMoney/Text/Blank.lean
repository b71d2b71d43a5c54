import DatedMoney.Text.CodeRange
/-! Blank characters, and text without the blanks around it. -/

namespace DatedMoney.Text

/-- White space of any script, with the four separators of the control range. -/
def blanks : CodeRanges := [
  (0x9, 0xd), (0x1c, 0x20), (0x85, 0x85), (0xa0, 0xa0), (0x1680, 0x1680), (0x2000, 0x200a),
  (0x2028, 0x2029), (0x202f, 0x202f), (0x205f, 0x205f), (0x3000, 0x3000)]

def isBlank (c : Char) : Bool := blanks.contains c

/-- The blanks of the ASCII range that separate words: tab to carriage return, and space. -/
def isPlainBlank (c : Char) : Bool := c = ' ' || (9 ≤ c.toNat && c.toNat ≤ 13)

/-- The text without the characters of a class at both ends. -/
def strip (p : Char → Bool) (cs : List Char) : List Char :=
  ((cs.dropWhile p).reverse.dropWhile p).reverse

end DatedMoney.Text
