import Debuggee.Chunk
import Debuggee.Selection
import Debuggee.Text.Search

namespace Debuggee

open Text

/-- What stands between quotes in the first line, the last of it. -/
def currentAbi? (output : String) : Option String := do
  let line ← (lines output.toList).head?
  let quoted := ((pieces '"' line).zipIdx.filter fun (_, i) => i % 2 = 1).map (·.1)
  return String.ofList (← quoted.getLast?)

def parseCommandWindow (output : String) : Option Nat × Option Nat :=
  match (words output.toList).dropWhile (· ≠ "cmd".toList) with
  | _ :: rows :: columns :: _ =>
    (Numeral.decimal? UInt32.size rows, Numeral.decimal? UInt32.size columns)
  | _ => (none, none)

structure PastCommand : Type where
  index : Nat
  command : String
  deriving DecidableEq, Repr

namespace PastCommand

def parse? (line : List Char) : Option PastCommand := do
  let line := trimStart line
  let rest := line.dropWhile (!isBlank ·)
  if rest.isEmpty then none
  let index ← Numeral.decimal? UInt32.size (line.takeWhile (!isBlank ·))
  return ⟨index, String.ofList (trim rest)⟩

def parseAll (output : String) : List PastCommand := (lines output.toList).filterMap parse?

end PastCommand

namespace Engine

variable {σ ν τ : Type} (E : Engine σ ν τ)

def ask (command : String) : Action σ String := E.execute command false true

def inferior : Action σ Inferior := do
  match ← Action.ask E.selectedInferior with
  | some i => pure i
  | none => throw .noProcess

theorem inferior_apply {E : Engine σ ν τ} {i : Inferior} {s : σ}
    (h : E.selectedInferior s = some i) : E.inferior s = (.ok i, s) := by
  rw [inferior, Action.bind_apply, Action.ask_apply, h]
  rfl

def archOf (i : Inferior) : Action σ Arch := do
  let reported ← E.arch i
  match ArchName.ofEngine reported.name with
  | .ok name => return ⟨name, reported.pointerSize, reported.order⟩
  | .error e => throw e

/-- Asked anew each time, so that it is always that of the inferior selected now. -/
def currentArch : Action σ Arch := do E.archOf (← E.inferior)

def arch? : StateM σ (Option Arch) := E.currentArch.attempt

def addressText (a : Address) : StateM σ String := do
  return a.padded (((← E.arch?).map (·.pointerSize)).getD 8)

def isRemote (i : Inferior) : StateM σ Bool := return (E.connection (← get) i).isRemote

def isEmulatedKernel (i : Inferior) : StateM σ Bool :=
  return E.connection (← get) i = .qemuSystem

def runsLinux : StateM σ Bool := do
  match ← (E.ask "show osabi").attempt with
  | none => return false
  | some output => return currentAbi? output = some "GNU/Linux"

def monitor (command : String) : Action σ String := E.ask s!"monitor {command}"

def listAuxv : Action σ String := E.ask "info auxv"

def pastCommands : Action σ (List PastCommand) :=
  return PastCommand.parseAll (← E.ask "show commands")

def commandWindow : StateM σ (Option Nat × Option Nat) := do
  match ← (E.ask "info win").attempt with
  | none => return (none, none)
  | some output => return parseCommandWindow output

def setVerbosity (verbose : Bool) : Action σ Unit := do
  let amount := if verbose then "full" else "message"
  let _ ← E.execute s!"set python print-stack {amount}" true true

def arrayType (t : τ) (count : Nat) : Action σ τ :=
  if count = 0 then throw (.invalidArgument "array of zero elements") else E.arrayOf t count

end Engine

end Debuggee
