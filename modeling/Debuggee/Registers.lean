import Debuggee.Observer
import Debuggee.Arch.InstructionSet
import Debuggee.Descriptor
import Debuggee.Expression
import Debuggee.Arch.Registers

/-!
Registers of the selected frame, by names that do not depend on how the engine spells them. What
was read is remembered by thread, frame and name; what is remembered ends with the next event that
may change it, and with every write from here. `live` is the same reading without remembering.
-/

namespace Debuggee

open Text

def unsignedName (size : Nat) : String :=
  match size with
  | 1 => "unsigned char"
  | 2 => "unsigned short"
  | 3 | 4 => "unsigned int"
  | _ => "unsigned long long"

namespace RegisterName

def bare (name : String) : String := String.ofList (name.toList.dropWhile (· = '$'))

def lowered (name : String) : String := String.ofList (lower (bare name).toList)

def capitals (name : String) : String := String.ofList (upper name.toList)

/-- What a register may be called by the engine, in the order in which it is tried. -/
def spellings (name : String) : List String :=
  let usual := [name, capitals name]
  if name.toList.map Char.toLower = "xpsr".toList then usual ++ ["xPSR", capitals "xPSR"] else usual

end RegisterName

def Arch.reduce (a : Arch) (n : Int) : UInt64 := .ofNat (n % (a.mask.toNat + 1)).toNat

/-- The program counter of this architecture counts from a segment. -/
def Arch.isSegmented (a : Arch) (name : String) : Bool := name == "pc" && a.name == .i8086

def Arch.readsAs (a : Arch) (n : Int) : Option UInt64 → UInt64
  | none => a.reduce n
  | some segment => a.reduce (n + 16 * segment.toNat)

namespace Registers

variable {σ ν τ : Type} (E : Engine σ ν τ)

/-! ### Reading -/

def readSpelling (frame : Frame) : List String → StateM σ (Option ν)
  | [] => return none
  | name :: names => do
    match ← (E.readRegister frame name).attempt with
    | some (some v) => return some v
    | _ => readSpelling frame names

def readInteger (frame : Frame) (name : String) : StateM σ (Option (Arch × Int)) := do
  match ← readSpelling E frame (RegisterName.spellings name) with
  | none => return none
  | some v =>
    match ← E.arch? with
    | none => return none
    | some arch =>
      let s ← get
      let unsigned := unsignedName (E.sizeOf s (E.typeOf s v))
      let n? ← Action.attempt do
        let _ ← E.inferior
        E.toInt (← E.cast v (← E.typeNamed unsigned))
      return n?.map (arch, ·)

def readIn {ρ : Type} (lift : ∀ {α : Type}, StateM σ α → StateM ρ α)
    (segment : StateM ρ (Option UInt64)) (frame : Frame) (name : String) :
    StateM ρ (Option UInt64) := do
  match ← lift (readInteger E frame name) with
  | none => return none
  | some (arch, n) =>
    if arch.isSegmented name then
      return (← segment).map fun base => arch.readsAs n (some base)
    else return some (arch.readsAs n none)

def liveWith (segment : StateM σ (Option UInt64)) (name : String) : StateM σ (Option UInt64) := do
  match ← E.frame? with
  | none => return none
  | some frame => readIn E id segment frame (RegisterName.bare name)

def live (name : String) : StateM σ (Option UInt64) :=
  liveWith E (liveWith E (pure none) "cs") name

def getWith (segment : StateM (View σ) (Option UInt64)) (name : String) :
    StateM (View σ) (Option UInt64) := do
  let name := RegisterName.bare name
  match ← View.ask E.frame? with
  | none => return none
  | some frame =>
    let ptid ← View.ask E.selectedPtid?
    let level ← View.ask (E.level frame).attempt
    View.remembered .values ⟨ptid, level, name⟩ (readIn E View.ask segment frame name)

def get (name : String) : StateM (View σ) (Option UInt64) :=
  getWith E (getWith E (pure none) "cs") name

def lookup (name : String) : StateM (View σ) (Option UInt64) := do
  let mask := ((← View.ask E.arch?).map (·.mask)).getD (byteMask 8)
  return (← get E (RegisterName.lowered name)).map (· &&& mask)

def pc : StateM (View σ) (Option UInt64) := get E "pc"

def sp : StateM (View σ) (Option UInt64) := get E "sp"

/-! ### Groups -/

def current? : StateM (View σ) (Option RegisterSet) := do
  return (← View.ask E.arch?).map (·.name.registers)

def group {α : Type} (f : RegisterSet → List α) : StateM (View σ) (List α) := do
  return ((← current? E).map f).getD []

def contains (name : String) : StateM (View σ) Bool := do
  return (← current? E).any fun s => s.names.contains name

def fix (expression : String) : StateM (View σ) String := do
  match ← current? E with
  | none => return expression
  | some s => return Expression.fix s.all expression

def lookupAll : List String → StateM (View σ) Snapshot
  | [] => return []
  | name :: names => do
    let value ← lookup E name
    return (name, value) :: (← lookupAll names)

def items : StateM (View σ) Snapshot := do lookupAll E (← group E RegisterSet.all)

/-! ### Writing -/

def write (name : String) (value : UInt64) : Action (View σ) Unit := do
  let name := RegisterName.bare name
  match ← Action.ofState (View.ask E.frame?) with
  | none => throw .noFrame
  | some frame =>
    if ← View.act (E.writeRegister frame name value) then
      Action.ofState <| View.modifyCaches fun c =>
        { c with values := c.values.clear, bases := c.bases.clear }
    else throw (.invalidArgument s!"no register named '{name}'")

/-! ### Change tracking -/

def snapshotCommon : StateM (View σ) Unit := do
  let snapshot ← lookupAll E (← group E RegisterSet.common)
  modify fun v => { v with observer :=
    { v.observer with last := snapshot, previous := v.observer.last } }

def changedAmong : Snapshot → StateM (View σ) (List String)
  | [] => return []
  | (name, value) :: rest => do
    let now ← lookup E name
    let changed ← changedAmong rest
    return if now = value then changed else name :: changed

def changed : StateM (View σ) (List String) := do
  changedAmong E (← MonadState.get).observer.previous

def reset : StateM (View σ) Unit :=
  modify fun v => { v with observer := { v.observer with last := [], previous := [] } }

/-! ### Segment bases and descriptor tables -/

/-- The base that the kernel tells. It knows threads by 31 bits, and tells nobody but a tracer. -/
def kernelBase? (id : UInt64) (segment : Segment)
    (prctl : UInt64 → Nat → Option UInt64 := fun _ _ => none) : Option UInt64 :=
  if id.toNat < 0x80000000 then prctl id segment.code else none

def findBase (segment : Segment) (ptid : Option Ptid) : StateM (View σ) UInt64 := do
  match ← View.ask E.arch? with
  | none => return 0
  | some arch =>
    if arch.name = .x8664 then return (← get E segment.register).getD 0
    match E.selectedInferior (← MonadState.get).engine with
    | none => return 0
    | some i =>
      if ← View.ask (E.isRemote i) then return 0
      let prctl := E.prctl (← MonadState.get).engine
      let base? := ptid.bind (·.kernelId) |>.bind fun id => kernelBase? id segment prctl
      return (base?.map (· &&& arch.mask)).getD 0

def segmentBase (segment : Segment) : StateM (View σ) UInt64 := do
  let ptid ← View.ask E.selectedPtid?
  View.remembered .bases (ptid, segment) (findBase E segment ptid)

def readInterruptTable : StateM σ (Option (UInt64 × UInt64)) := do
  match E.selectedInferior (← MonadState.get) with
  | none => return none
  | some i =>
    if !(← E.isEmulatedKernel i) then return none
    match ← (E.archOf i).attempt with
    | none => return none
    | some arch =>
      if arch.name ≠ .i386 ∧ arch.name ≠ .x8664 then return none
      if (← E.frame?).isNone then return none
      match ← (E.monitor "info registers").attempt with
      | none => return none
      | some output => return Descriptor.parse? output "IDT"

def interruptTable : StateM (View σ) (Option UInt64) :=
  View.remembered .descriptors "IDT" (return (← View.ask (readInterruptTable E)).map (·.1))

def interruptTableLimit : StateM (View σ) (Option UInt64) :=
  View.remembered .descriptors "IDT_LIMIT" (return (← View.ask (readInterruptTable E)).map (·.2))

/-! ### Thumb -/

def instructionSetBit : StateM (View σ) (Option Nat) := do
  match ← View.ask E.arch? with
  | none => return none
  | some arch => arch.name.readInstructionSetBit (get E)

def instructionSet : StateM (View σ) (Option InstructionSet) := do
  return (← instructionSetBit E).map InstructionSet.ofBit

end Registers

end Debuggee
