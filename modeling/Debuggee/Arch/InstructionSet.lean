import Debuggee.Arch.Name

namespace Debuggee

inductive InstructionSet : Type
  | arm : InstructionSet
  | thumb : InstructionSet
  deriving DecidableEq, Repr

namespace InstructionSet

def text : InstructionSet → String
  | .arm => "arm"
  | .thumb => "thumb"

def ofBit (bit : Nat) : InstructionSet := if bit = 1 then .thumb else .arm

end InstructionSet

def ArchName.instructionSetBit? : ArchName → Option (String × UInt64)
  | .arm => some ("cpsr", 5)
  | .armcm => some ("xpsr", 24)
  | _ => none

def ArchName.readInstructionSetBit {m : Type → Type} [Monad m] (arch : ArchName)
    (read : String → m (Option UInt64)) : m (Option Nat) :=
  match arch.instructionSetBit? with
  | none => pure none
  | some (register, bit) => do
    return (← read register).map fun status => ((status >>> bit) &&& 1).toNat

end Debuggee
