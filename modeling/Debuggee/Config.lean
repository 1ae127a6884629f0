import Debuggee.Text.Blank
import Debuggee.Text.Numeral

namespace Debuggee

open Text

structure SignalRule : Type where
  signal : String
  stop : Bool
  print : Bool
  pass : Bool
  deriving DecidableEq, Repr

def SignalRule.text (p : SignalRule) : String :=
  let word := fun (chosen : Bool) (name : String) => if chosen then name else "no" ++ name
  " ".intercalate [p.signal, word p.stop "stop", word p.print "print", word p.pass "pass"]

structure Config : Type where
  stringMax : Nat := 4096
  maxPages : Nat := 1024
  flavor : String := "intel"
  signals : List SignalRule := [
    ⟨"SIGALRM", false, true, false⟩, ⟨"SIGBUS", true, true, false⟩,
    ⟨"SIGPIPE", false, true, false⟩, ⟨"SIGSEGV", true, true, false⟩]
  /-- Where file names that are not absolute start from. -/
  directory : String := "/"
  deriving DecidableEq, Repr

namespace Config

def readCount? (text : String) : Option Nat :=
  (Numeral.decimal? UInt64.size (trim text.toList)).filter (0 < ·)

def readFlavor? (text : String) : Option String :=
  let flavor := trim text.toList
  if flavor.isEmpty then none else some (String.ofList flavor)

def ofEnvironment (lookup : String → Option String) : Config :=
  let defaults : Config := {}
  { defaults with
    stringMax := ((lookup "VANTAGE_STRING_MAX").bind readCount?).getD defaults.stringMax
    maxPages := ((lookup "VANTAGE_MAX_PAGES").bind readCount?).getD defaults.maxPages
    flavor := ((lookup "VANTAGE_DISASSEMBLY_FLAVOR").bind readFlavor?).getD defaults.flavor }

end Config

end Debuggee
