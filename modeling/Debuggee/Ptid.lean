namespace Debuggee

structure Ptid : Type where
  pid : UInt32
  lwp : UInt64
  tid : UInt64
  deriving DecidableEq, Repr

namespace Ptid

/-- The number the kernel knows the thread by, which for a single thread is the process. -/
def kernelId (p : Ptid) : Option UInt64 :=
  if p.lwp ≠ 0 then some p.lwp
  else if p.pid ≠ 0 then some p.pid.toUInt64
  else none

def text (p : Ptid) : String := s!"({p.pid}, {p.lwp}, {p.tid})"

end Ptid

inductive Segment : Type
  | fs : Segment
  | gs : Segment
  deriving DecidableEq, Repr

namespace Segment

def code : Segment → Nat
  | .fs => 0x1003
  | .gs => 0x1004

def register : Segment → String
  | .fs => "fs_base"
  | .gs => "gs_base"

end Segment

end Debuggee
