import Debuggee.Assoc
import Debuggee.Engine
import Debuggee.Engine.Store
import Debuggee.Text.Utf8

namespace Debuggee

open Text

structure Member : Type where
  bitPosition : Nat
  name : Option String
  typeName : String
  enumValue : Option Int
  artificial : Bool
  isBase : Bool
  bitSize : Nat
  deriving Repr

inductive CType : Type
  | basic (name : Option String) (size align : Nat) (number : Int) (signed : Bool)
      (target : Option String) (members : List Member) : CType
  | array : CType → Nat → CType
  | pointer : CType → Nat → CType
  deriving Repr

namespace CType

def integer (name : Option String) (size : Nat) (signed : Bool) : CType :=
  .basic name size (max 1 (min size 8)) TypeKind.int.number signed none []

def name : CType → Option String
  | .basic name .. => name
  | _ => none

def size : CType → Nat
  | .basic _ size .. => size
  | .array element count => element.size * count
  | .pointer _ size => size

def align : CType → Nat
  | .basic _ _ align .. => align
  | .array element _ => element.align
  | .pointer _ size => size

def number : CType → Int
  | .basic _ _ _ number .. => number
  | .array .. => TypeKind.array.number
  | .pointer .. => TypeKind.pointer.number

def isSigned : CType → Bool
  | .basic _ _ _ _ signed .. => signed
  | _ => false

def unknown : CType := .basic none 0 1 TypeKind.int.number false none []

def builtin : List CType := [
  integer (some "unsigned char") 1 false, integer (some "unsigned short") 2 false,
  integer (some "unsigned int") 4 false, integer (some "unsigned long long") 8 false,
  integer (some "char") 1 true, integer (some "short") 2 true,
  integer (some "int") 4 true, integer (some "long") 8 true]

def ofSize : Nat → CType
  | 1 => integer (some "char") 1 true
  | 2 => integer (some "short") 2 true
  | 4 => integer (some "int") 4 true
  | 8 => integer (some "long") 8 true
  | size => integer none size true

end CType

/-- A value, with the number of times that all values before it had become stale. -/
structure Value : Type where
  bits : UInt64
  type : CType
  address : Option Address := none
  optimized : Bool := false
  age : Nat
  deriving Repr

structure Register : Type where
  value : UInt64
  size : Nat
  optimized : Bool
  deriving Repr

structure FrameState : Type where
  thread : Thread
  level : Nat
  registers : List (String × Register) := []
  locals : List (String × UInt64) := []
  live : Bool := true
  deriving Repr

structure Symbol : Type where
  value : UInt64
  typeName : String
  address : Option Address
  optimized : Bool
  deriving Repr

structure Machine : Type where
  arch : ReportedArch := ⟨"i386:x86-64", 8, .little⟩
  version : Nat × Nat := (12, 1)
  connection : Connection := .native
  present : Bool := true
  threads : List (Thread × Option Ptid) := []
  frames : List FrameState := []
  selectedThread : Option Thread := none
  selectedFrame : Option Frame := none
  aliases : List (String × String) := []
  memory : Store := {}
  mappings : List Mapping := []
  types : List CType := []
  withheldTypes : List String := []
  symbols : List (String × Symbol) := []
  outputs : List (String × String) := []
  refusedCommands : List String := []
  segments : List ((UInt64 × Nat) × UInt64) := []
  age : Nat := 0

namespace Machine

/-! ### Threads and frames -/

def findThread (m : Machine) (t : Thread) : Except Error (Option Ptid) :=
  match m.threads.lookup t with
  | some ptid => .ok ptid
  | none => .error (.staleHandle s!"thread {t.number}")

def findFrame (m : Machine) (f : Frame) : Except Error FrameState :=
  match m.frames[f.number]?.filter (·.live) with
  | some state => .ok state
  | none => .error (.staleHandle s!"frame {f.number}")

def ptid (m : Machine) (t : Thread) : Except Error Ptid := do
  match ← m.findThread t with
  | some ptid => .ok ptid
  | none => .error (.staleHandle s!"thread {t.number}")

def innermost? (m : Machine) (t : Thread) : Option Frame :=
  (m.frames.findIdx? fun f => f.live && f.thread == t && f.level == 0).map (⟨·⟩)

def currentFrame (m : Machine) : Except Error Frame :=
  match m.selectedFrame with
  | some f => .ok f
  | none => .error (.engine "No stack.")

def newestFrame (m : Machine) : Except Error Frame :=
  match m.selectedThread with
  | none => .error (.engine "No thread selected.")
  | some t =>
    match m.innermost? t with
    | some f => .ok f
    | none => .error (.engine "No stack.")

def switchThread (m : Machine) (t : Thread) : Except Error Machine := do
  let _ ← m.findThread t
  return { m with selectedThread := some t, selectedFrame := m.innermost? t }

def selectFrame (m : Machine) (f : Frame) : Except Error Machine := do
  let _ ← m.findFrame f
  return { m with selectedFrame := some f }

/-! ### Registers -/

def registerName (m : Machine) (state : FrameState) (name : String) : String :=
  if (state.registers.lookup name).isSome then name else (m.aliases.lookup name).getD name

def readRegister (m : Machine) (f : Frame) (name : String) : Except Error (Option Value) := do
  let state ← m.findFrame f
  return (state.registers.lookup (m.registerName state name)).map fun r =>
    { bits := r.value, type := .ofSize r.size, optimized := r.optimized, age := m.age }

def modifyFrame (m : Machine) (f : Frame) (g : FrameState → FrameState) : Machine :=
  { m with frames := m.frames.modify f.number g }

def writeRegister (m : Machine) (f : Frame) (name : String) (value : UInt64) :
    Except Error (Bool × Machine) := do
  let state ← m.findFrame f
  let name := m.registerName state name
  match state.registers.lookup name with
  | none => return (false, m)
  | some r =>
    let r := { r with value := value &&& byteMask r.size }
    return (true, m.modifyFrame f fun s => { s with registers := Assoc.store name r s.registers })

/-! ### Types -/

def findType (m : Machine) (name : String) : Except Error CType :=
  match (CType.builtin ++ m.types).find? (·.name == some name) with
  | some t => .ok t
  | none => .error (.typeNotFound name)

def typeNamed (m : Machine) (name : String) : Except Error CType :=
  if m.withheldTypes.contains name then .error (.typeNotFound name) else m.findType name

def targetOf (m : Machine) : CType → Except Error CType
  | .array element _ => .ok element
  | .pointer target _ => .ok target
  | .basic _ _ _ _ _ (some target) _ => m.findType target
  | .basic _ _ _ _ _ none _ => .error (.engine "Type does not have a target.")

def followFrom (m : Machine) : Nat → CType → Except Error CType
  | 0, t => .ok t
  | left + 1, t =>
    if t.number = TypeKind.typedef.number then do m.followFrom left (← m.targetOf t) else .ok t

/-- No chain of typedefs is longer than the list of types. -/
def followTypedefs (m : Machine) (t : CType) : Except Error CType :=
  m.followFrom (m.types.length + 1) t

def fieldsOf (m : Machine) (t : CType) : Except Error (List (Field CType)) :=
  match t with
  | .basic _ _ _ _ _ _ members =>
    members.mapM fun f => do
      return ⟨f.bitPosition, f.name, ← m.findType f.typeName, t, f.enumValue, f.artificial,
        f.isBase, f.bitSize⟩
  | _ => .ok []

/-! ### Values -/

def isStale (m : Machine) (v : Value) : Bool := v.age < m.age

def fresh (m : Machine) (v : Value) : Except Error Unit :=
  if m.isStale v then .error (.staleHandle "value") else .ok ()

def makeValue (m : Machine) (bits : UInt64) : Value :=
  { bits, type := .ofSize 8, age := m.age }

def typeOf (m : Machine) (v : Value) : CType := if m.isStale v then .unknown else v.type

def optimizedOut (m : Machine) (v : Value) : Bool := !m.isStale v && v.optimized

def addressOf (m : Machine) (v : Value) : Except Error (Option Address) := do
  m.fresh v
  return v.address

def cast (m : Machine) (v : Value) (t : CType) : Except Error Value := do
  m.fresh v
  return { v with bits := v.bits &&& byteMask t.size, type := t, address := none }

def signedOf (size : Nat) (n : Nat) : Int := Int.bmod n (1 <<< (8 * size))

def toInt (m : Machine) (v : Value) : Except Error Int := do
  m.fresh v
  if v.optimized then throw (.engine "value has been optimized out")
  let n := (v.bits &&& byteMask v.type.size).toNat
  return if v.type.isSigned then signedOf (min v.type.size 8) n else n

def dereference (m : Machine) (v : Value) : Except Error Value := do
  m.fresh v
  if v.type.number ≠ TypeKind.pointer.number then
    throw (.engine "Attempt to take contents of a non-pointer value.")
  let target ← m.targetOf v.type
  let bytes ← m.memory.read v.bits target.size
  return { bits := (m.arch.order.decode? bytes).getD 0, type := target, address := some v.bits,
           age := m.age }

def stringOf (m : Machine) (v : Value) : Except Error String := do
  m.fresh v
  let unsuitable : Error := .engine "Trying to read string with inappropriate type."
  if v.type.number ≠ TypeKind.pointer.number then throw unsuitable
  let target ← m.targetOf v.type
  if target.size ≠ 1 then throw unsuitable
  match Utf8.decode? (← m.memory.readString v.bits) with
  | some text => return String.ofList text
  | none => throw (.engine "Invalid string.")

/-! ### Commands and expressions -/

def execute (m : Machine) (command : String) : Except Error String :=
  if m.refusedCommands.any fun start => start.toList.isPrefixOf command.toList then
    .error (.engine s!"command failed: {command}")
  else .ok ((m.outputs.lookup command).getD "")

def localOf? (m : Machine) (name : String) : Option UInt64 := do
  let f ← m.selectedFrame
  let state ← m.frames[f.number]?
  state.locals.lookup name

def evaluate (m : Machine) (text : String) (isGlobal : Bool) : Except Error Value := do
  match text.toList with
  | '$' :: name =>
    if isGlobal then throw (.engine "registers need a frame")
    let name := String.ofList name
    match ← m.readRegister (← m.currentFrame) name with
    | some v => return v
    | none => throw (.engine s!"Invalid register `{name}'")
  | cs =>
    let own := if isGlobal then none else m.localOf? text
    match own, m.symbols.lookup text with
    | some bits, _ => return m.makeValue bits
    | none, some s =>
      let type ← m.findType s.typeName
      return { bits := s.value, type, address := s.address, optimized := s.optimized, age := m.age }
    | none, none =>
      let number? := if Numeral.isDigits cs then Numeral.decimal? UInt64.size cs else none
      match number? with
      | some n => return m.makeValue (.ofNat n)
      | none => throw (.engine s!"No symbol \"{text}\" in current context.")

end Machine

namespace Action

def step {σ α : Type} (f : σ → Except Error (α × σ)) : Action σ α := fun s =>
  match f s with
  | .ok (a, s) => (.ok a, s)
  | .error e => (.error e, s)

end Action

def splitSpaces (line : String) : List String := (line.splitOn " ").filter (· ≠ "")

def Machine.engine : Engine Machine Value CType where
  version := Machine.version
  selectedInferior m := if m.present then some ⟨1⟩ else none
  connection m _ := m.connection
  selectedThread := Machine.selectedThread
  optimizedOut := Machine.optimizedOut
  typeOf := Machine.typeOf
  typeName _ t := t.name
  sizeOf _ t := t.size
  alignOf _ t := t.align
  typeNumber _ t := t.number
  prctl m id code := m.segments.lookup (id, code)
  execute command _ _ := .query (·.execute command)
  evaluate text isGlobal := .query (·.evaluate text isGlobal)
  splitArguments line := pure (splitSpaces line)
  defineCommand _ := pure ()
  arch _ := .ask (·.arch)
  threads _ := .ask fun m => m.threads.map (·.1)
  readMemory _ a size := .query (·.memory.read a size)
  writeMemory _ a bytes := .step fun m => do
    return ((), { m with memory := ← m.memory.write a bytes })
  memoryMap _ := .ask (·.mappings)
  switchThread t := .step fun m => return ((), ← m.switchThread t)
  ptid t := .query (·.ptid t)
  selectedFrame := .query (·.currentFrame)
  newestFrame := .query (·.newestFrame)
  selectFrame f := .step fun m => return ((), ← m.selectFrame f)
  level f := .query fun m => return (← m.findFrame f).level
  readRegister f name := .query (·.readRegister f name)
  writeRegister f name value := .step (·.writeRegister f name value)
  makeValue bits := .ask (·.makeValue bits)
  addressOf v := .query (·.addressOf v)
  dereference v := .query (·.dereference v)
  stringOf v := .query (·.stringOf v)
  fetch v := .query (·.fresh v)
  toInt v := .query (·.toInt v)
  cast v t := .query (·.cast v t)
  fields t := .query (·.fieldsOf t)
  arrayOf t count := pure (.array t count)
  pointerTo t := .ask fun m => .pointer t m.arch.pointerSize
  followTypedefs t := .query (·.followTypedefs t)
  targetOf t := .query (·.targetOf t)
  typeNamed name := .query (·.typeNamed name)

end Debuggee
