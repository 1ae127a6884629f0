import Debuggee.Observer
import Debuggee.Event.Registry
import Debuggee.Registers
import Debuggee.Terminal

/-!
A debugger: an engine that is set up once, the observers attached to it, and the events that reach
them. Each observer has two subscriptions, the first to forget what the event makes stale and the
second, which so reads anew, to take a snapshot. A resize of the terminal is passed on to the
engine at the next prompt. Whoever uses the library may add handlers and commands of their own.
-/

namespace Debuggee

structure Extension : Type 1 where
  Handler : Type
  Command : Type
  State : Type

/-- Who can wait for an event: the debugger, an observer to forget or to take a snapshot, others. -/
inductive Handler (X : Extension) : Type
  | applyResize : Handler X
  | forget : Nat → Handler X
  | takeSnapshot : Nat → Handler X
  | other : X.Handler → Handler X

structure Attachment : Type where
  number : Nat
  observer : Observer
  forgetId : Nat
  snapshotId : Nat

structure World (σ : Type) (X : Extension) : Type where
  engine : σ
  config : Config
  terminal : Terminal
  configured : Bool := false
  attachments : List Attachment := []
  nextObserver : Nat := 0
  state : X.State

structure Debugger (σ : Type) (X : Extension) : Type where
  world : World σ X
  registry : Registry (Handler X) := {}
  commands : List (String × X.Command) := []
  /-- Whether the debugger is held by more than its observers. -/
  held : Bool := true

/-- What the added handlers and commands do, and how many events the handlers may still raise. -/
structure Behavior (σ : Type) (X : Extension) : Type where
  react : X.Handler → Event → Program (Handler X) (World σ X)
  budget : X.State → Nat
  run : X.Command → String → Bool → Action (Debugger σ X) Unit

variable {σ ν τ α : Type} {X : Extension}

namespace World

variable (E : Engine σ ν τ)

def attachment? (w : World σ X) (number : Nat) : Option Attachment :=
  w.attachments.find? (·.number == number)

def putObserver (w : World σ X) (number : Nat) (observer : Observer) : World σ X :=
  { w with attachments := w.attachments.map fun a =>
      if a.number = number then { a with observer } else a }

def look (number : Nat) (x : StateM (View σ) α) (w : World σ X) : Option α × World σ X :=
  match w.attachment? number with
  | none => (none, w)
  | some a =>
    let (r, v) := x ⟨a.observer, w.engine⟩
    (some r, { w.putObserver number v.observer with engine := v.engine })

def modifyEngine (x : StateM σ α) (w : World σ X) : World σ X :=
  { w with engine := (x w.engine).2 }

def widthSetting (w : World σ X) : String := s!"set width {w.terminal.size.columns}"

def applyResize (w : World σ X) : World σ X :=
  let (resized, terminal) := w.terminal.consumeResize
  let w := { w with terminal }
  if resized then w.modifyEngine (E.ask w.widthSetting).attempt else w

def forget (number : Nat) (e : Event) (w : World σ X) : World σ X :=
  (w.look number (View.modifyCaches (·.onEvent e))).2

def takeSnapshot (number : Nat) (w : World σ X) : World σ X :=
  (w.look number (Registers.snapshotCommon E)).2

end World

def react (E : Engine σ ν τ) (B : Behavior σ X) :
    Handler X → Event → Program (Handler X) (World σ X)
  | .applyResize, _ => .change (World.applyResize E)
  | .forget number, e => .change (World.forget number e)
  | .takeSnapshot number, _ => .change (World.takeSnapshot E number)
  | .other h, e => B.react h e

namespace Debugger

variable (E : Engine σ ν τ) (B : Behavior σ X)

def onEngine (x : Action σ α) : Action (Debugger σ X) α :=
  x.within (·.world.engine) fun s d => { d with world := { d.world with engine := s } }

/-! ### Setting up -/

def fixedSettings : List String := [
  "set confirm off", "set verbose off", "set pagination off", "set height 0",
  "set history save on", "set follow-fork-mode child", "set backtrace past-main on",
  "set step-mode on", "set print pretty on"]

/-- Engines up to this version mishandle a packet of the remote protocol. -/
def lastWithoutSearch : Nat := 9

def settings (w : World σ X) : List String :=
  fixedSettings ++ [w.widthSetting] ++ w.config.signals.map (fun p => s!"handle {p.text}") ++
    if (E.version w.engine).1 ≤ lastWithoutSearch then ["set remote search-memory-packet off"]
    else []

def executeAll : List String → Action σ Unit
  | [] => pure ()
  | command :: commands => do
    let _ ← E.ask command
    executeAll commands

def configure : Action (Debugger σ X) Unit := do
  let d ← get
  if d.world.configured then return
  set { d with world := { d.world with configured := true } }
  onEngine (executeAll E (settings E d.world))
  let flavor := s!"set disassembly-flavor {d.world.config.flavor}"
  let _ ← Action.ofState (onEngine (E.ask flavor)).attempt
  modify fun d => { d with registry := (d.registry.subscribe [.prompt] .applyResize).2 }

def isConfigured (d : Debugger σ X) : Bool := d.world.configured

/-! ### Events -/

def subscribe (events : List Event) (h : X.Handler) (d : Debugger σ X) : Nat × Debugger σ X :=
  let (id, registry) := d.registry.subscribe events (.other h)
  (id, { d with registry })

def unsubscribe (id : Nat) (d : Debugger σ X) : Bool × Debugger σ X :=
  let (found, registry) := d.registry.unsubscribe id
  (found, { d with registry })

/-- Delivers an event, unless more events follow from it than the handlers may raise. -/
def notify (e : Event) (d : Debugger σ X) : Option (Debugger σ X) := do
  let limit := B.budget d.world.state + 1
  let (registry, world) ← d.registry.dispatch (react E B) limit e d.world
  return { d with registry, world }

def noteResize (d : Debugger σ X) : Debugger σ X :=
  { d with world := { d.world with terminal := d.world.terminal.noteResize } }

/-! ### Observers -/

def attach (config : Config) : Action (Debugger σ X) Nat := do
  configure E
  let d ← get
  let number := d.world.nextObserver
  let (forgetId, registry) := d.registry.subscribe Event.all (.forget number)
  let (snapshotId, registry) := registry.subscribe [.continue, .stop] (.takeSnapshot number)
  let attachment := ⟨number, { config }, forgetId, snapshotId⟩
  set { d with
    registry
    world := { d.world with
      attachments := d.world.attachments ++ [attachment]
      nextObserver := number + 1 } }
  return number

def detach (number : Nat) (d : Debugger σ X) : Debugger σ X :=
  match d.world.attachment? number with
  | none => d
  | some a =>
    let (_, registry) := d.registry.unsubscribe a.forgetId
    let (_, registry) := registry.unsubscribe a.snapshotId
    { d with
      registry
      world := { d.world with
        attachments := d.world.attachments.filter (·.number != number) } }

/-! ### Commands -/

def defineCommand (name : String) (c : X.Command) : Action (Debugger σ X) Unit := do
  onEngine (E.defineCommand name)
  modify fun d => { d with commands := Assoc.store name c d.commands }

/-- Observers keep a debugger alive, also one that nobody else holds any more. -/
def isAlive (d : Debugger σ X) : Bool := d.held || !d.world.attachments.isEmpty

def release (d : Debugger σ X) : Debugger σ X := { d with held := false }

/-- Runs a command that was added. The engine may still have commands of a debugger that is gone. -/
def invoke (name arguments : String) (typed : Bool) : Action (Debugger σ X) Unit := do
  let d ← get
  match d.commands.lookup name with
  | none => throw (.engine s!"Undefined command: \"{name}\"")
  | some c =>
    if d.isAlive then B.run c arguments typed
    else throw (.staleHandle "debugger was dropped")

end Debugger

end Debuggee
