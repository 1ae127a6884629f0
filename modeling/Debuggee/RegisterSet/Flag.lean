import Debuggee.Text.Case
import Debuggee.Text.Numeral

namespace Debuggee

open Text

structure Flag : Type where
  name : String
  bit : Nat
  width : Nat
  deriving DecidableEq, Repr

namespace Flag

def mask (f : Flag) : UInt64 :=
  if 64 ≤ f.width then .ofNat (UInt64.size - 1) else .ofNat ((1 <<< f.width) - 1)

def extract (f : Flag) (value : UInt64) : UInt64 := (value >>> .ofNat f.bit) &&& f.mask

/-- A wide field shows its number; a single bit shows its name in capitals if it is set. -/
def render (f : Flag) (value : UInt64) : String :=
  let field := f.extract value
  if 1 < f.width then s!"{f.name}={field}"
  else if field = 1 then String.ofList (upper f.name.toList)
  else String.ofList (lower f.name.toList)

end Flag

abbrev FlagLayout := List Flag

namespace FlagLayout

def field? (layout : FlagLayout) (name : String) : Option Flag := layout.find? (·.name == name)

def decode (layout : FlagLayout) (value : UInt64) : List (String × UInt64) :=
  layout.map fun f => (f.name, f.extract value)

def render (layout : FlagLayout) (value : UInt64) : String :=
  " ".intercalate (layout.map (·.render value))

end FlagLayout

end Debuggee
