import DatedMoney.Index.Table
/-! The reference tables. Each has the same years and one value a year. -/

namespace DatedMoney.Index

/-- A number with `places` decimal places. -/
def withPlaces (places coefficient : Nat) : Decimal := .finite false coefficient (-places)

def referenceYears : List Int :=
  [1913, 1920, 1930, 1940, 1950, 1960, 1970, 1980, 1990, 2000, 2010, 2020, 2024]

/-- A table of values with the same number of places for the reference years. -/
def reference (name : String) (places : Nat) (coefficients : List Nat) : Table :=
  .ofPairs name (referenceYears.zip (coefficients.map (withPlaces places)))

/-- Consumer prices of all urban consumers, of which those of 1982 to 1984 are 100. -/
def cpi : Table := reference "CPI" 1
  [99, 200, 167, 140, 241, 296, 388, 824, 1307, 1722, 2181, 2588, 3103]

/-- The average wage of a year, in dollars. -/
def wage : Table := reference "WAGE" 0
  [633, 1236, 1368, 1299, 2992, 4007, 6186, 12513, 21027, 32154, 41673, 51916, 59384]

/-- The price of a troy ounce of gold, in dollars. -/
def gold : Table := reference "GOLD" 2
  [2067, 2067, 2067, 3500, 4025, 3527, 3656, 60797, 38351, 27911, 122453, 177075, 234000]

end DatedMoney.Index
