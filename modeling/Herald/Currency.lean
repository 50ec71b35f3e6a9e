/- Amounts of money.

An amount is its sign, the currency's symbol and the grouped fixed-point text of its size
with the currency's number of places. A currency without data is written as its code and a
blank, with two places. -/
import Herald.Locale
import Herald.Number.Fixed
namespace Herald
set_option autoImplicit false

/-- How amounts of a currency are written. -/
structure Currency where
  symbol : String
  places : Nat
  deriving DecidableEq, Repr

namespace Currency

/-- The currencies with data, by code. -/
def known : List (String × Currency) := [
  ("CNY", ⟨"¥", 2⟩),
  ("RMB", ⟨"¥", 2⟩),
  ("JPY", ⟨"¥", 0⟩),
  ("USD", ⟨"$", 2⟩),
  ("HKD", ⟨"HK$", 2⟩),
  ("TWD", ⟨"NT$", 2⟩),
  ("EUR", ⟨"€", 2⟩),
  ("GBP", ⟨"£", 2⟩),
  ("KRW", ⟨"₩", 0⟩)]

/-- The currency of a code in upper case. -/
def ofCode (code : String) : Currency := (known.lookup code).getD ⟨code ++ " ", 2⟩

/-- The code in force: the one given, trimmed and in upper case, or the locale's own where
none is given or it is blank. -/
def codeFor (given : Option (List Char)) (locale : Locale) : String :=
  let code := (given.map fun text => Text.asciiUpper (Text.trim text)).getD []
  if code.isEmpty then locale.currency else String.ofList code

/-- The text of an amount. -/
def amountText (currency : Currency) (amount : Binary64) : List Char :=
  let size := groupThousands (amount.magnitude.fixed currency.places)
  let body := currency.symbol.toList ++ size
  if amount.isBelowZero then '-' :: body else body

end Currency
end Herald
