import Debuggee.Text.Numeral

namespace Debuggee

open Text

inductive Error : Type
  | engine : String → Error
  | memoryRead : UInt64 → Nat → Error
  | memoryWrite : UInt64 → Nat → Error
  | staleHandle : String → Error
  | noProcess : Error
  | noThread : Error
  | noFrame : Error
  | unknownArchitecture : String → Error
  | typeNotFound : String → Error
  | invalidArgument : String → Error
  | io : String → Error
  deriving DecidableEq, Repr

def hexText (n : Nat) : String := "0x" ++ String.ofList (Numeral.hex n)

def Error.kind : Error → String
  | .engine _ => "Engine"
  | .memoryRead .. => "MemoryRead"
  | .memoryWrite .. => "MemoryWrite"
  | .staleHandle _ => "StaleHandle"
  | .noProcess => "NoProcess"
  | .noThread => "NoThread"
  | .noFrame => "NoFrame"
  | .unknownArchitecture _ => "UnknownArchitecture"
  | .typeNotFound _ => "TypeNotFound"
  | .invalidArgument _ => "InvalidArgument"
  | .io _ => "Io"

def Error.message : Error → String
  | .engine text => s!"Engine error: {text}"
  | .memoryRead address size => s!"Cannot read {size} bytes at {hexText address.toNat}"
  | .memoryWrite address size => s!"Cannot write {size} bytes at {hexText address.toNat}"
  | .staleHandle text => s!"Stale handle: {text}"
  | .noProcess => "No process is being debugged"
  | .noThread => "No thread selected"
  | .noFrame => "No frame selected"
  | .unknownArchitecture name => s!"Unknown architecture: {name}"
  | .typeNotFound name => s!"Type '{name}' not found"
  | .invalidArgument text => s!"Invalid argument: {text}"
  | .io text => s!"IO error: {text}"

/-- What nobody handles: a program does not go on after it. -/
inductive Crash : Type
  | capacityOverflow : Crash
  deriving DecidableEq, Repr

def Crash.message : Crash → String
  | .capacityOverflow => "capacity overflow"

end Debuggee
