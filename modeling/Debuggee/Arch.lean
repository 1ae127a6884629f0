import Debuggee.Arch.Name
import Debuggee.Arch.Word

namespace Debuggee

structure Arch : Type where
  name : ArchName
  pointerSize : Nat
  order : ByteOrder
  deriving DecidableEq, Repr

namespace Arch

def pointerBits (a : Arch) : Nat := 8 * a.pointerSize % UInt32.size

def mask (a : Arch) : UInt64 := byteMask a.pointerSize

def pack (a : Arch) (value : UInt64) : Bytes := a.order.encode a.pointerSize (value &&& a.mask)

def unpack? (a : Arch) (bytes : Bytes) : Option UInt64 := a.order.decode? bytes

def text (a : Arch) : String :=
  s!"{a.name.text} ({a.pointerBits}-bit, {a.order.text} endian)"

end Arch

end Debuggee
