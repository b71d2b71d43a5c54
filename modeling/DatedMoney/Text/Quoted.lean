import DatedMoney.Text.Printable
/-! Text between quotes, as it appears inside messages. -/

namespace DatedMoney.Text

/-- `n` in base sixteen with at least `width` digits. -/
def hexPadded (width n : Nat) : List Char := (Nat.toDigits 16 n).leftpad width '0'

/-- A character between quotes: the quote itself, the backslash and what has no mark of its own
are written as escapes. -/
def escape (quote c : Char) : List Char :=
  if c = quote || c = '\\' then ['\\', c]
  else if c = '\n' then ['\\', 'n']
  else if c = '\r' then ['\\', 'r']
  else if c = '\t' then ['\\', 't']
  else if isPrintable c then [c]
  else if c.toNat < 0x100 then '\\' :: 'x' :: hexPadded 2 c.toNat
  else if c.toNat < 0x10000 then '\\' :: 'u' :: hexPadded 4 c.toNat
  else '\\' :: 'U' :: hexPadded 8 c.toNat

/-- A single quote, unless only double quotes spare an escape. -/
def quoteMark (cs : List Char) : Char :=
  if cs.contains '\'' && !cs.contains '"' then '"' else '\''

def quoted (cs : List Char) : List Char :=
  let quote := quoteMark cs
  quote :: cs.flatMap (escape quote) ++ [quote]

def quote (s : String) : String := .ofList (quoted s.toList)

/-- The beginning of a text between quotes, up to two hundred characters. -/
def quoteBegin (s : String) : String := .ofList ((quoted s.toList).take 200)

end DatedMoney.Text
