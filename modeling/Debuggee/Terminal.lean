import Debuggee.Text.Blank
import Debuggee.Text.Numeral

namespace Debuggee

open Text

structure WindowSize : Type where
  rows : Nat
  columns : Nat
  deriving DecidableEq, Repr

namespace WindowSize

def readExtent? (text : String) : Option Nat :=
  (Numeral.decimal? UInt16.size (trim text.toList)).filter (0 < ·)

def ofEnvironment? (lookup : String → Option String) : Option WindowSize := do
  let rows ← readExtent? (← lookup "LINES")
  let columns ← readExtent? (← lookup "COLUMNS")
  return ⟨rows, columns⟩

def usual : WindowSize := ⟨24, 80⟩

end WindowSize

structure Terminal : Type where
  size : WindowSize
  resized : Bool
  deriving DecidableEq, Repr

namespace Terminal

def ofEnvironment (lookup : String → Option String) : Terminal :=
  ⟨(WindowSize.ofEnvironment? lookup).getD .usual, false⟩

def noteResize (t : Terminal) : Terminal := { t with resized := true }

def consumeResize (t : Terminal) : Bool × Terminal := (t.resized, { t with resized := false })

end Terminal

end Debuggee
