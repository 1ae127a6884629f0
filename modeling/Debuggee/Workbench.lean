import Debuggee.Watch

namespace Debuggee

structure Workbench (σ ν τ : Type) : Type where
  debugger : Debugger σ Watch.extension
  config : Config
  watchers : Nat := 0
  tags : List (String × Nat) := []
  values : List (String × ν) := []
  types : List (String × τ) := []
  frames : List (String × Frame) := []
  threads : List (String × Thread) := []

namespace Workbench

variable {σ ν τ α : Type}

def ofEngine (engine : σ) (config : Config) (terminal : Terminal) : Workbench σ ν τ where
  debugger := { world := { engine, config, terminal, state := ({} : Journal) } }
  config

def journal (w : Workbench σ ν τ) : Journal := w.debugger.world.state

def modifyJournal (f : Journal → Journal) (w : Workbench σ ν τ) : Workbench σ ν τ :=
  { w with debugger := { w.debugger with world := Watch.modifyJournal f w.debugger.world } }

def onDebugger (x : Action (Debugger σ Watch.extension) α) : Action (Workbench σ ν τ) α :=
  x.within (·.debugger) fun d w => { w with debugger := d }

def onEngine (x : Action σ α) : Action (Workbench σ ν τ) α := onDebugger (Debugger.onEngine x)

def askEngine (x : StateM σ α) : StateM (Workbench σ ν τ) α := fun w =>
  let (a, engine) := x w.debugger.world.engine
  (a, { w with debugger := { w.debugger with world := { w.debugger.world with engine } } })

def look (x : StateM (View σ) α) : StateM (Workbench σ ν τ) (Option α) := fun w =>
  match w.journal.observer with
  | none => (none, w)
  | some number =>
    let (a, world) := w.debugger.world.look number x
    (a, { w with debugger := { w.debugger with world } })

def putObserver (number : Option Nat) (w : Workbench σ ν τ) : Workbench σ ν τ :=
  let w := match w.journal.observer with
    | none => w
    | some old => { w with debugger := w.debugger.detach old }
  w.modifyJournal fun j => { j with observer := number }

def attach (E : Engine σ ν τ) : Action (Workbench σ ν τ) Unit := do
  let number ← onDebugger (Debugger.attach E (← get).config)
  modify (putObserver (some number))

def detach (w : Workbench σ ν τ) : Workbench σ ν τ := w.putObserver none

def watch (tag : String) (events : List Event) (register : Option String)
    (further : Option Event) (w : Workbench σ ν τ) : Nat × Workbench σ ν τ :=
  let watcher : Watcher := ⟨w.watchers, tag, register, further⟩
  let (id, debugger) := w.debugger.subscribe events watcher
  let w := { w with debugger, watchers := w.watchers + 1, tags := (tag, id) :: w.tags }
  (id, if further.isSome then w.modifyJournal fun j => { j with due := watcher.number :: j.due }
    else w)

def unwatch (tag : String) (w : Workbench σ ν τ) : Bool × Workbench σ ν τ :=
  match w.tags.lookup tag with
  | none => (false, w)
  | some id =>
    let (found, debugger) := w.debugger.unsubscribe id
    (found, { w with debugger })

def takeJournal (w : Workbench σ ν τ) : List Entry × Workbench σ ν τ :=
  (w.journal.take.1, w.modifyJournal (·.take.2))

def keepValue (name : String) (v : ν) (w : Workbench σ ν τ) : Workbench σ ν τ :=
  { w with values := Assoc.store name v w.values }

def keepType (name : String) (t : τ) (w : Workbench σ ν τ) : Workbench σ ν τ :=
  { w with types := Assoc.store name t w.types }

def keepFrame (name : String) (f : Frame) (w : Workbench σ ν τ) : Workbench σ ν τ :=
  { w with frames := Assoc.store name f w.frames }

def keepThread (name : String) (t : Thread) (w : Workbench σ ν τ) : Workbench σ ν τ :=
  { w with threads := Assoc.store name t w.threads }

end Workbench

end Debuggee
