import Debuggee.Action
import Debuggee.Arch
import Debuggee.Mapping
import Debuggee.Ptid

/-!
The debugger engine underneath: what can be asked of it and what it can be told to do. An engine
names its inferior, its threads and its frames by numbers; values and types are whatever it likes.
-/

namespace Debuggee

structure Inferior : Type where
  number : Nat
  deriving DecidableEq, Repr

structure Thread : Type where
  number : Nat
  deriving DecidableEq, Repr

structure Frame : Type where
  number : Nat
  deriving DecidableEq, Repr

inductive Connection : Type
  | native : Connection
  | remote : Connection
  | qemuUser : Connection
  | qemuSystem : Connection
  deriving DecidableEq, Repr

def Connection.isRemote (c : Connection) : Bool := c ≠ .native

structure ReportedArch : Type where
  name : String
  pointerSize : Nat
  order : ByteOrder
  deriving DecidableEq, Repr

structure Field (τ : Type) : Type where
  bitPosition : Nat
  name : Option String
  type : τ
  parent : τ
  enumValue : Option Int
  artificial : Bool
  isBase : Bool
  bitSize : Nat

inductive TypeKind : Type
  | int : TypeKind
  | union : TypeKind
  | struct : TypeKind
  | enum : TypeKind
  | typedef : TypeKind
  | pointer : TypeKind
  | array : TypeKind
  deriving DecidableEq, Repr

namespace TypeKind

def number : TypeKind → Int
  | .pointer => 1
  | .array => 2
  | .struct => 3
  | .union => 4
  | .enum => 5
  | .int => 8
  | .typedef => 23

def text : TypeKind → String
  | .int => "Int"
  | .union => "Union"
  | .struct => "Struct"
  | .enum => "Enum"
  | .typedef => "Typedef"
  | .pointer => "Pointer"
  | .array => "Array"

def all : List TypeKind := [.int, .union, .struct, .enum, .typedef, .pointer, .array]

def ofNumber (n : Int) : Except String TypeKind :=
  match all.find? (·.number == n) with
  | some code => .ok code
  | none => .error s!"missing mapping for GDB type code {n}"

end TypeKind

/--
An engine with states `σ`, values `ν` and types `τ`. The flags of `execute` say whether the
command counts as typed by the user and whether its output is returned; the flag of `evaluate`
says whether the expression is global or belongs to the selected frame.
-/
structure Engine (σ ν τ : Type) : Type where
  version : σ → Nat × Nat
  selectedInferior : σ → Option Inferior
  connection : σ → Inferior → Connection
  selectedThread : σ → Option Thread
  optimizedOut : σ → ν → Bool
  typeOf : σ → ν → τ
  typeName : σ → τ → Option String
  sizeOf : σ → τ → Nat
  alignOf : σ → τ → Nat
  typeNumber : σ → τ → Int
  /-- What the kernel underneath tells of a thread that is traced, by the code of the question. -/
  prctl : σ → UInt64 → Nat → Option UInt64 := fun _ _ _ => none
  execute : String → Bool → Bool → Action σ String
  evaluate : String → Bool → Action σ ν
  splitArguments : String → Action σ (List String)
  defineCommand : String → Action σ Unit
  arch : Inferior → Action σ ReportedArch
  threads : Inferior → Action σ (List Thread)
  readMemory : Inferior → Address → Nat → Action σ Bytes
  writeMemory : Inferior → Address → Bytes → Action σ Unit
  memoryMap : Inferior → Action σ (List Mapping)
  switchThread : Thread → Action σ Unit
  ptid : Thread → Action σ Ptid
  selectedFrame : Action σ Frame
  newestFrame : Action σ Frame
  selectFrame : Frame → Action σ Unit
  level : Frame → Action σ Nat
  readRegister : Frame → String → Action σ (Option ν)
  writeRegister : Frame → String → UInt64 → Action σ Bool
  makeValue : UInt64 → Action σ ν
  addressOf : ν → Action σ (Option Address)
  dereference : ν → Action σ ν
  stringOf : ν → Action σ String
  fetch : ν → Action σ Unit
  toInt : ν → Action σ Int
  cast : ν → τ → Action σ ν
  fields : τ → Action σ (List (Field τ))
  arrayOf : τ → Nat → Action σ τ
  pointerTo : τ → Action σ τ
  followTypedefs : τ → Action σ τ
  targetOf : τ → Action σ τ
  typeNamed : String → Action σ τ

namespace Engine

variable {σ ρ ν τ : Type}

def within (get : ρ → σ) (put : σ → ρ → ρ) (E : Engine σ ν τ) : Engine ρ ν τ where
  version r := E.version (get r)
  selectedInferior r := E.selectedInferior (get r)
  connection r := E.connection (get r)
  selectedThread r := E.selectedThread (get r)
  optimizedOut r := E.optimizedOut (get r)
  typeOf r := E.typeOf (get r)
  typeName r := E.typeName (get r)
  sizeOf r := E.sizeOf (get r)
  alignOf r := E.alignOf (get r)
  typeNumber r := E.typeNumber (get r)
  prctl r := E.prctl (get r)
  execute command typed captured := (E.execute command typed captured).within get put
  evaluate text isGlobal := (E.evaluate text isGlobal).within get put
  splitArguments line := (E.splitArguments line).within get put
  defineCommand name := (E.defineCommand name).within get put
  arch i := (E.arch i).within get put
  threads i := (E.threads i).within get put
  readMemory i a size := (E.readMemory i a size).within get put
  writeMemory i a bytes := (E.writeMemory i a bytes).within get put
  memoryMap i := (E.memoryMap i).within get put
  switchThread t := (E.switchThread t).within get put
  ptid t := (E.ptid t).within get put
  selectedFrame := E.selectedFrame.within get put
  newestFrame := E.newestFrame.within get put
  selectFrame f := (E.selectFrame f).within get put
  level f := (E.level f).within get put
  readRegister f name := (E.readRegister f name).within get put
  writeRegister f name value := (E.writeRegister f name value).within get put
  makeValue n := (E.makeValue n).within get put
  addressOf v := (E.addressOf v).within get put
  dereference v := (E.dereference v).within get put
  stringOf v := (E.stringOf v).within get put
  fetch v := (E.fetch v).within get put
  toInt v := (E.toInt v).within get put
  cast v t := (E.cast v t).within get put
  fields t := (E.fields t).within get put
  arrayOf t count := (E.arrayOf t count).within get put
  pointerTo t := (E.pointerTo t).within get put
  followTypedefs t := (E.followTypedefs t).within get put
  targetOf t := (E.targetOf t).within get put
  typeNamed name := (E.typeNamed name).within get put

def evaluateRegister (selectedFrame : Action σ Frame)
    (readRegister : Frame → String → Action σ (Option ν)) (name : String) : Action σ ν := do
  match ← readRegister (← selectedFrame) name with
  | some v => pure v
  | none => throw (.engine s!"Invalid register `{name}'")

end Engine

end Debuggee
