import Debuggee.Text.Blank
import Debuggee.Text.Numeral
import Debuggee.Text.Search

namespace Debuggee.Descriptor

open Text

def parse? (output name : String) : Option (UInt64 × UInt64) := do
  match words (← after? (name ++ "=").toList output.toList) with
  | base :: limit :: _ =>
    return (.ofNat (← Numeral.hex? UInt64.size base), .ofNat (← Numeral.hex? UInt64.size limit))
  | _ => none

end Debuggee.Descriptor
