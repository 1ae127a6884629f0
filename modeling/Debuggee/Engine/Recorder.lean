import Debuggee.Engine

namespace Debuggee

inductive Call : Type
  | execute : String → Bool → Bool → Call
  | defineCommand : String → Call
  | writeMemory : Address → Bytes → Call
  | switchThread : Thread → Call
  | selectFrame : Frame → Call
  | writeRegister : Frame → String → UInt64 → Call
  deriving DecidableEq, Repr

/-- A state with the calls and the reads it has seen, the latest first. -/
structure Recorded (σ : Type) : Type where
  engine : σ
  calls : List Call := []
  reads : List (Address × Nat) := []

namespace Recorded

variable {σ : Type}

def note (c : Call) : Action (Recorded σ) Unit := .change fun r => { r with calls := c :: r.calls }

def noteRead (a : Address) (size : Nat) : Action (Recorded σ) Unit :=
  .change fun r => { r with reads := (a, size) :: r.reads }

def takeCalls (r : Recorded σ) : List Call × Recorded σ :=
  (r.calls.reverse, { r with calls := [] })

def takeReads (r : Recorded σ) : List (Address × Nat) × Recorded σ :=
  (r.reads.reverse, { r with reads := [] })

end Recorded

namespace Engine

variable {σ ν τ : Type}

def recorded (E : Engine σ ν τ) : Engine (Recorded σ) ν τ :=
  let R : Engine (Recorded σ) ν τ := E.within (·.engine) fun s r => { r with engine := s }
  { R with
    execute := fun command typed captured => do
      Recorded.note (.execute command typed captured)
      R.execute command typed captured
    defineCommand := fun name => do
      Recorded.note (.defineCommand name)
      R.defineCommand name
    readMemory := fun i a size => do
      Recorded.noteRead a size
      R.readMemory i a size
    writeMemory := fun i a bytes => do
      Recorded.note (.writeMemory a bytes)
      R.writeMemory i a bytes
    switchThread := fun t => do
      Recorded.note (.switchThread t)
      R.switchThread t
    selectFrame := fun f => do
      Recorded.note (.selectFrame f)
      R.selectFrame f
    writeRegister := fun f name value => do
      Recorded.note (.writeRegister f name value)
      R.writeRegister f name value }

end Engine

end Debuggee
