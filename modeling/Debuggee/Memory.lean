import Debuggee.Process

/-!
Memory of the selected inferior: bytes, strings, numbers in its byte order, and values of its
types. A number is read whole or not at all.
-/

namespace Debuggee

inductive TypeSource (τ : Type) : Type
  | named : String → TypeSource τ
  | handle : τ → TypeSource τ

def signedValue (size : Nat) (word : UInt64) : Int := Int.bmod word.toNat (1 <<< (8 * size))

namespace Memory

variable {σ ν τ : Type} (E : Engine σ ν τ)

def read (a : Address) (size : Nat) : Action σ Bytes := do E.read (← E.inferior) a size

theorem read_apply {E : Engine σ ν τ} {i : Inferior} {s : σ} (h : E.selectedInferior s = some i)
    (a : Address) (size : Nat) : read E a size s = E.read i a size s := by
  rw [read, Action.bind_apply, Engine.inferior_apply h]

/-- The bytes that can be read before the first that cannot. -/
def readPrefix (a : Address) (size : Nat) : Action σ Bytes := do
  Action.ofState (E.readPrefix (← E.inferior) a size)

def readBuffered (a : Address) (size : Nat) : Action σ (Except Crash Bytes) := do
  Action.ofState (E.readBuffered (← E.inferior) a size)

def write (a : Address) (bytes : Bytes) : Action σ Unit := do E.write (← E.inferior) a bytes

def peek (a : Address) : StateM σ (Option UInt8) := do
  return (← (read E a 1).attempt).bind (·.head?)

/-- Whether the byte at an address can be written, found out by writing what is there. -/
def poke (a : Address) : StateM σ Bool := do
  match ← peek E a with
  | none => return false
  | some b => return (← (write E a [b]).attempt).isSome

def probe (a : Address) : StateM σ Bool := do
  let map? ← Action.attempt do E.memoryMap (← E.inferior)
  if (map?.getD []).any (·.contains a) then return (← peek E a).isSome else return false

def string (a : Address) (max : Nat) : StateM σ Bytes := do
  if (← peek E a).isNone then return []
  return ((← (readPrefix E a max).attempt).getD []).takeWhile (· ≠ 0)

/-- The same, into a buffer, which is only made where the first byte can be read. -/
def stringBuffered (a : Address) (max : Nat) : StateM σ (Except Crash Bytes) := do
  if (← peek E a).isNone then return .ok []
  return ((← (readBuffered E a max).attempt).getD (.ok [])).map (·.takeWhile (· ≠ 0))

def word (a : Address) (size : Nat) : Action σ UInt64 := do
  let i ← E.inferior
  let arch ← E.archOf i
  let bytes ← E.read i a size
  match if bytes.length = size then arch.order.decode? bytes else none with
  | some n => return n
  | none => throw (.memoryRead a size)

def signed (a : Address) (size : Nat) : Action σ Int := return signedValue size (← word E a size)

def pointer (a : Address) : Action σ UInt64 := do word E a (← E.currentArch).pointerSize

def unsigned (a : Address) (bits? : Option Nat) : Action σ UInt64 := do
  let bits ← match bits? with
    | some bits => pure bits
    | none => do pure (← E.currentArch).pointerBits
  if [8, 16, 32, 64].contains bits then word E a (bits / 8)
  else throw (.invalidArgument s!"unsupported integer width {bits}")

def pointerValue (t : τ) (a : Address) : Action σ ν := do
  let pointer ← E.pointerTo t
  let _ ← E.inferior
  E.cast (← E.makeValue a) pointer

def typedPointer (t : TypeSource τ) (a : Address) : Action σ ν := do
  match t with
  | .handle t => pointerValue E t a
  | .named name =>
    let _ ← E.inferior
    pointerValue E (← E.typeNamed name) a

def typedValue (t : TypeSource τ) (a : Address) : Action σ ν := do
  E.dereference (← typedPointer E t a)

def typedInteger (t : TypeSource τ) (a : Address) : Action σ Int := do
  let v ← typedValue E t a
  E.fetch v
  E.toInt v

end Memory

end Debuggee
