import Debuggee.RegisterSet.Flag

namespace Debuggee

structure RegisterSet : Type where
  pc : String
  stack : String
  frame : Option String
  returnAddresses : List String
  flags : List (String × FlagLayout)
  extraFlags : List (String × FlagLayout)
  general : List String
  misc : List String
  arguments : List String
  result : Option String
  deriving DecidableEq, Repr

namespace RegisterSet

def flagNames (s : RegisterSet) : List String := s.flags.map (·.1)

def extraFlagNames (s : RegisterSet) : List String := s.extraFlags.map (·.1)

def common (s : RegisterSet) : List String :=
  (s.general ++ s.frame.toList ++ [s.stack, s.pc] ++ s.flagNames).eraseDups

def all (s : RegisterSet) : List String :=
  [s.pc, s.stack] ++ s.frame.toList ++ s.returnAddresses ++ s.flagNames ++ s.general ++ s.misc

def members (s : RegisterSet) : List String :=
  (s.common ++ s.returnAddresses ++ s.flagNames ++ s.extraFlagNames ++ s.misc ++ s.arguments ++
    s.result.toList).eraseDups

def contains (s : RegisterSet) (name : String) : Bool := s.members.contains name

/-- The layout of a flag register; an extra flag register of the same name comes second. -/
def layout? (s : RegisterSet) (register : String) : Option FlagLayout :=
  (s.flags ++ s.extraFlags).lookup register

def names (s : RegisterSet) : List String := (s.members ++ ["pc", "sp"]).eraseDups

end RegisterSet

end Debuggee
