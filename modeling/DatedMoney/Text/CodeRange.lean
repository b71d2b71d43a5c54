/-! Classes of characters, given as ranges of code points. -/

namespace DatedMoney.Text

/-- A class of characters: the first and the last code point of each range. -/
abbrev CodeRanges := List (Nat × Nat)

def CodeRanges.contains (ranges : CodeRanges) (c : Char) : Bool :=
  ranges.any fun (first, last) => first ≤ c.toNat && c.toNat ≤ last

end DatedMoney.Text
