import Debuggee.Engine

namespace Debuggee

structure Fault : Type where
  operation : String
  skip : Nat
  count : Option Nat
  deriving DecidableEq, Repr

namespace Fault

def trip (operation : String) : List Fault → Bool × List Fault
  | [] => (false, [])
  | f :: rest =>
    let (fails, rest') := trip operation rest
    if f.operation ≠ operation then (fails, f :: rest')
    else match f.skip, f.count with
      | skip + 1, _ => (fails, { f with skip } :: rest')
      | 0, some 0 => (fails, f :: rest')
      | 0, some (count + 1) => (true, { f with count := some count } :: rest)
      | 0, none => (true, f :: rest)

end Fault

structure Faulty (σ : Type) : Type where
  engine : σ
  faults : List Fault := []

namespace Faulty

variable {σ : Type}

def add (f : Fault) (s : Faulty σ) : Faulty σ := { s with faults := s.faults ++ [f] }

def isDue (operation : String) : Action (Faulty σ) Bool := fun s =>
  let (due, faults) := Fault.trip operation s.faults
  (.ok due, { s with faults })

def check (operation : String) : Action (Faulty σ) Unit := do
  if ← isDue operation then throw (.engine s!"injected: {operation}")

end Faulty

namespace Engine

variable {σ ν τ : Type}

/-- A read that is short by its last byte counts as a fault of its own. -/
def faulty (E : Engine σ ν τ) : Engine (Faulty σ) ν τ :=
  let F : Engine (Faulty σ) ν τ := E.within (·.engine) fun s r => { r with engine := s }
  let selectedFrame := do
    Faulty.check "selected_frame"
    F.selectedFrame
  let readRegister := fun f name => do
    Faulty.check "frame_read_register"
    F.readRegister f name
  { F with
    execute := fun command typed captured => do
      Faulty.check "execute"
      F.execute command typed captured
    evaluate := fun text isGlobal => do
      Faulty.check "parse_and_eval"
      match text.toList, isGlobal with
      | '$' :: name, false => evaluateRegister selectedFrame readRegister (String.ofList name)
      | _, _ => F.evaluate text isGlobal
    splitArguments := fun line => do
      Faulty.check "string_to_argv"
      F.splitArguments line
    defineCommand := fun name => do
      Faulty.check "register_command"
      F.defineCommand name
    arch := fun i => do
      Faulty.check "inferior_arch"
      F.arch i
    threads := fun i => do
      Faulty.check "inferior_threads"
      F.threads i
    readMemory := fun i a size => do
      Faulty.check "read_memory"
      let bytes ← F.readMemory i a size
      return if ← Faulty.isDue "short_read" then bytes.dropLast else bytes
    writeMemory := fun i a bytes => do
      Faulty.check "write_memory"
      F.writeMemory i a bytes
    memoryMap := fun i => do
      Faulty.check "memory_map"
      F.memoryMap i
    switchThread := fun t => do
      Faulty.check "switch_thread"
      F.switchThread t
    ptid := fun t => do
      Faulty.check "thread_ptid"
      F.ptid t
    selectedFrame
    newestFrame := do
      Faulty.check "newest_frame"
      F.newestFrame
    selectFrame := fun f => do
      Faulty.check "select_frame"
      F.selectFrame f
    level := fun f => do
      Faulty.check "frame_level"
      F.level f
    readRegister
    writeRegister := fun f name value => do
      Faulty.check "frame_write_register"
      F.writeRegister f name value
    makeValue := fun n => do
      Faulty.check "create_value"
      F.makeValue n
    dereference := fun v => do
      Faulty.check "value_dereference"
      F.dereference v
    stringOf := fun v => do
      Faulty.check "value_string"
      F.stringOf v
    fetch := fun v => do
      Faulty.check "value_fetch_lazy"
      F.fetch v
    toInt := fun v => do
      Faulty.check "value_to_int"
      F.toInt v
    cast := fun v t => do
      Faulty.check "value_cast"
      F.cast v t
    fields := fun t => do
      Faulty.check "type_fields"
      F.fields t
    arrayOf := fun t count => do
      Faulty.check "type_array"
      F.arrayOf t count
    pointerTo := fun t => do
      Faulty.check "type_pointer"
      F.pointerTo t
    followTypedefs := fun t => do
      Faulty.check "type_strip_typedefs"
      F.followTypedefs t
    targetOf := fun t => do
      Faulty.check "type_target"
      F.targetOf t
    typeNamed := fun name => do
      Faulty.check "lookup_type"
      F.typeNamed name }

end Engine

end Debuggee
