/-! The currencies, their codes and the symbols that stand before an amount. -/

namespace DatedMoney

inductive Currency where
  | usd | eur | gbp | jpy | cad | aud | chf | cny
deriving DecidableEq, Repr

namespace Currency

def all : List Currency := [.usd, .eur, .gbp, .jpy, .cad, .aud, .chf, .cny]

def code : Currency → String
  | .usd => "USD"
  | .eur => "EUR"
  | .gbp => "GBP"
  | .jpy => "JPY"
  | .cad => "CAD"
  | .aud => "AUD"
  | .chf => "CHF"
  | .cny => "CNY"

def ofCode? (code : String) : Option Currency := all.find? (·.code = code)

@[simp] theorem ofCode?_code (c : Currency) : ofCode? c.code = some c := by
  cases c <;> decide

/-- The symbol that is written before an amount. The yen and the yuan share one. -/
def symbol : Currency → String
  | .usd => "$"
  | .eur => "€"
  | .gbp => "£"
  | .jpy | .cny => "¥"
  | .cad => "C$"
  | .aud => "A$"
  | .chf => "CHF"

/-- The currencies that are read from their symbols, longer symbols first. The shared symbol is
read as the yen. -/
def readable : List Currency := [.chf, .cad, .aud, .usd, .eur, .gbp, .jpy]

def ofSymbol? (symbol : String) : Option Currency := readable.find? (·.symbol = symbol)

end Currency
end DatedMoney
