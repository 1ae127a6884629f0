import Debuggee.Engine

/-!
The engine does many things to the thread and the frame that are selected. To do them to another
one, that one is selected first and what was selected before is selected again afterwards, however
the thing turned out.
-/

namespace Debuggee

variable {σ ν τ α : Type}

structure ThreadGuard : Type where
  previous : Option (Thread × Option Frame)
  deriving DecidableEq, Repr

namespace ThreadGuard

/-- To select a thread is to select a frame of it, so the frame has to be remembered too. -/
def enter (E : Engine σ ν τ) (target : Thread) : Action σ ThreadGuard := do
  let current ← Action.ask E.selectedThread
  if current = some target then return ⟨none⟩
  let frame ← Action.ofState E.selectedFrame.attempt
  E.switchThread target
  return ⟨current.map (·, frame)⟩

def leave (E : Engine σ ν τ) : ThreadGuard → Action σ Unit
  | ⟨none⟩ => pure ()
  | ⟨some (thread, none)⟩ => E.switchThread thread
  | ⟨some (thread, some frame)⟩ => do
    E.switchThread thread
    E.selectFrame frame

theorem enter_of_selected {E : Engine σ ν τ} {target : Thread} {s : σ}
    (h : E.selectedThread s = some target) : enter E target s = (.ok ⟨none⟩, s) := by
  simp [enter, h]

end ThreadGuard

structure FrameGuard : Type where
  previous : Option Frame
  deriving DecidableEq, Repr

namespace FrameGuard

def enter (E : Engine σ ν τ) (target : Frame) : Action σ FrameGuard := do
  let current ← Action.ofState E.selectedFrame.attempt
  if current = some target then return ⟨none⟩
  E.selectFrame target
  return ⟨current⟩

def leave (E : Engine σ ν τ) : FrameGuard → Action σ Unit
  | ⟨none⟩ => pure ()
  | ⟨some frame⟩ => E.selectFrame frame

end FrameGuard

namespace Engine

variable (E : Engine σ ν τ)

def inThread (target : Thread) (x : Action σ α) : Action σ α := do
  let guard ← ThreadGuard.enter E target
  x.thenAlways (guard.leave E)

def inFrame (target : Frame) (x : Action σ α) : Action σ α := do
  let guard ← FrameGuard.enter E target
  x.thenAlways (guard.leave E)

def evaluateIn (frame : Frame) (expression : String) : Action σ ν :=
  E.inFrame frame (E.evaluate expression false)

def innermostFrame (thread : Thread) : Action σ Frame := E.inThread thread E.newestFrame

def frame? : StateM σ (Option Frame) := E.selectedFrame.attempt

def ptid? (thread : Thread) : StateM σ (Option Ptid) := (E.ptid thread).attempt

def selectedPtid? : StateM σ (Option Ptid) := do
  match E.selectedThread (← get) with
  | none => return none
  | some thread => E.ptid? thread

end Engine

end Debuggee
