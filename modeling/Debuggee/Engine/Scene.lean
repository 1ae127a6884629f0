import Debuggee.Engine.Machine

namespace Debuggee

namespace Machine

def linuxAbi : String :=
  "The current OS ABI is \"auto\" (currently \"GNU/Linux\").\n" ++
    "The default OS ABI is \"GNU/Linux\".\n"

def initial (arch : ReportedArch) : Machine where
  arch
  threads := [(⟨1⟩, some ⟨4242, 4242, 0⟩)]
  frames := [{ thread := ⟨1⟩, level := 0 }]
  selectedThread := some ⟨1⟩
  selectedFrame := some ⟨0⟩
  outputs := [("show osabi", linuxAbi)]

def register (m : Machine) (value : UInt64) (size? : Option Nat) (optimized : Bool) : Register :=
  ⟨value, size?.getD m.arch.pointerSize, optimized⟩

def setRegister (f : Frame) (name : String) (r : Register) (m : Machine) : Machine :=
  m.modifyFrame f fun s => { s with registers := Assoc.store name r s.registers }

def removeRegister (f : Frame) (name : String) (m : Machine) : Machine :=
  m.modifyFrame f fun s => { s with registers := s.registers.filter (·.1 ≠ name) }

def register? (m : Machine) (f : Frame) (name : String) : Option UInt64 :=
  (m.frames[f.number]?.bind (·.registers.lookup name)).map (·.value)

def setLocal (f : Frame) (name : String) (value : UInt64) (m : Machine) : Machine :=
  m.modifyFrame f fun s => { s with locals := Assoc.store name value s.locals }

def setAlias (name register : String) (m : Machine) : Machine :=
  { m with aliases := Assoc.store name register m.aliases }

def mapPages (start : Address) (pages : Nat) (p : Permissions) (m : Machine) : Machine :=
  { m with memory := m.memory.apply (.map start pages p) }

/-- Puts pages into the memory map, which does not make them exist. -/
def listPages (start : Address) (pages : Nat) (p : Permissions) (object : Option String)
    (m : Machine) : Machine :=
  let stop := start.addSaturating (pages * Address.pageSize)
  { m with mappings := m.mappings ++ [⟨start, stop, p, object⟩] }

def unmapPages (start : Address) (pages : Nat) (m : Machine) : Machine :=
  { m with memory := m.memory.apply (.unmap start pages) }

def storeBytes (a : Address) (bytes : Bytes) (m : Machine) : Machine :=
  { m with memory := m.memory.apply (.store a bytes.toArray) }

def setOutput (command text : String) (m : Machine) : Machine :=
  { m with outputs := Assoc.store command text m.outputs }

def refuse (start : String) (m : Machine) : Machine :=
  { m with refusedCommands := m.refusedCommands ++ [start] }

def obey (m : Machine) : Machine := { m with refusedCommands := [] }

def endThread (t : Thread) (m : Machine) : Machine :=
  { m with threads := m.threads.filter (·.1 ≠ t) }

def endFrame (f : Frame) (m : Machine) : Machine :=
  m.modifyFrame f fun s => { s with live := false }

def discardValues (m : Machine) : Machine := { m with age := m.age + 1 }

end Machine

end Debuggee
