import Debuggee.Text.Blank
import Debuggee.Text.Numeral
import Debuggee.Text.Search

namespace Debuggee.AuxvListing

open Text

/-- `0x` and the lower-case digits after it; what follows the digits does not matter. -/
def hexWord? (word : List Char) : Option Nat := do
  let digits ← stripStart? ['0', 'x'] word
  Numeral.hex? UInt64.size (digits.takeWhile fun c => c.isDigit || ('a' ≤ c && c ≤ 'f'))

def decimalWord? (word : List Char) : Option Nat :=
  if Numeral.isDigits word then Numeral.decimal? UInt64.size word else none

def parseLine? (line : List Char) : Option (UInt64 × UInt64) :=
  match words line with
  | [] => none
  | first :: rest => do
    let kind ← decimalWord? first
    let value ← match rest.findSome? hexWord? with
      | some value => some value
      | none => rest.getLast?.bind decimalWord?
    return (.ofNat kind, .ofNat value)

def parse (listing : String) : List (UInt64 × UInt64) :=
  (lines listing.toList).filterMap parseLine?

end Debuggee.AuxvListing
