import Debuggee.Auxv.Listing
import Debuggee.Boundary
import Debuggee.Registers
import Debuggee.Text.Path
import Debuggee.Text.Utf8

/-!
The auxiliary vector of a debuggee, from the engine's listing, or else from the stack of a Linux
program, where the kernel left it between the environment and the strings. Down from the top of
the stack the pairs of words are searched for the pair of zeros that ends the vector, for the entry
that every vector of a dynamic program has, and for the lowest pair that can belong to it; from
there the vector is read upwards. If the pairs do not line up with the top, one word lower they do.
-/

namespace Debuggee

open Text

namespace AuxvSource

variable {σ ν τ : Type} (E : Engine σ ν τ)

def followString (a : UInt64) : Action σ String := do
  let pointer ← E.pointerTo (← E.typeNamed "char")
  E.stringOf (← E.cast (← E.makeValue a) pointer)

def entryValue (kind word : UInt64) : StateM σ AuxvValue := do
  if AuxvKind.isString kind then
    match ← (followString E word).attempt with
    | some text => return .str text
    | none => return .unreadable word
  else return .int word

def set (v : Auxv) (kind word : UInt64) : StateM σ Auxv := do
  return v.insert kind (← entryValue E kind word)

def setAll (v : Auxv) : List (UInt64 × UInt64) → StateM σ Auxv
  | [] => return v
  | (kind, word) :: rest => do setAll (← set E v kind word) rest

/-- Pairs of this number or a higher one do not belong to a vector on the stack. -/
def kindLimit : UInt64 := 37

def baseSearchLimit : Nat := 1024

def fileNameMax : Nat := 1024

variable (size : Nat)

def distance (words : Nat) : Nat := words * size % UInt64.size

def down (a : Address) (words : Nat) : Action σ Address :=
  match a.sub? (distance size words) with
  | some b => pure b
  | none => throw (.memoryRead a size)

def up (a : Address) (words : Nat) : Action σ Address :=
  match a.add? (distance size words) with
  | some b => pure b
  | none => throw (.memoryRead a size)

/-- Whether both words of a pair are zero; the second is read only if the first is. -/
def isZeroPair (a : Address) : Action σ Bool := do
  if (← Memory.pointer E a) ≠ 0 then return false
  return (← Memory.pointer E (← up size a 1)) = 0

def seekZeroPair : Nat → Address → Action σ Address
  | pairs, cursor => do
    if ← isZeroPair E size cursor then return cursor
    let below ← down size cursor 2
    match pairs with
    | 0 => return below
    | pairs + 1 => seekZeroPair pairs below

def seekBase : Nat → Address → Action σ (Option Address)
  | 0, _ => return none
  | pairs + 1, cursor => do
    if (← Memory.pointer E cursor) = AuxvKind.base then return some cursor
    seekBase pairs (← down size cursor 2)

def seekStart : Nat → Address → Action σ Address
  | pairs, cursor => do
    let below ← down size cursor 2
    if (← Memory.pointer E below) < kindLimit then
      match pairs with
      | 0 => return below
      | pairs + 1 => seekStart pairs below
    else return cursor

def readUp : Nat → Address → Auxv → Action σ Auxv
  | pairs, cursor, v => do
    let kind ← Memory.pointer E cursor
    if kind = 0 then return v
    let word ← Memory.pointer E (← up size cursor 1)
    let v ← Action.ofState (set E v kind word)
    let above ← up size cursor 2
    match pairs with
    | 0 => return v
    | pairs + 1 => readUp pairs above v

def pairsBelow (a : Address) : Nat := a.toNat / (2 * size)

def pairsAbove (a : Address) : Nat := (UInt64.size - 1 - a.toNat) / (2 * size)

/-- Reads the vector of the stack that ends at `top`, with so many words above its pairs. -/
def readStack (top : Address) (skew : Nat) : Action σ Auxv := do
  let cursor ← down size top (skew + 2)
  let last ← seekZeroPair E size (pairsBelow size cursor) cursor
  match ← seekBase E size baseSearchLimit last with
  | none => return {}
  | some base =>
    let first ← seekStart E size (pairsBelow size base) base
    readUp E size (pairsAbove size first) first {}

def fromStackPointer (i : Inferior) (skew : Nat) : Action (View σ) Auxv := do
  match ← Action.ofState (Registers.sp E) with
  | none => return {}
  | some sp => View.act do
    let arch ← E.archOf i
    let top ← Action.ofState (Boundary.stackTop E sp)
    readStack E arch.pointerSize top skew

def skipDown (skips : UInt8 → Bool) : Nat → StateM σ (Option Nat)
  | 0 => return none
  | below + 1 => do
    match ← (Memory.word E (.ofNat below) 1).attempt with
    | none => return none
    | some b => if skips b.toUInt8 then skipDown skips below else return some (below + 1)

def lastString? (top : Address) : StateM σ (Option Address) := do
  match ← skipDown E (· = 0) top.toNat with
  | none => return none
  | some stop => return (← skipDown E (· ≠ 0) stop).map .ofNat

/-- The file name that the kernel left at the top of the stack, made absolute. -/
def fileNameFromStack : StateM (View σ) (Option String) := do
  match ← Registers.sp E with
  | none => return none
  | some sp =>
    if (← View.ask (Memory.peek E sp)).isNone then return none
    let top ← Boundary.upper E sp none
    match ← View.ask (lastString? E top) with
    | none => return none
    | some a =>
      let name ← Boundary.string E a (some fileNameMax)
      if name.isEmpty then return none
      let directory := (← get).observer.config.directory.toList
      return some (String.ofList (Path.absolute directory (Utf8.decodeLossy name)))

def listed? : StateM σ (Option Auxv) := do
  match ← E.listAuxv.attempt with
  | none => return none
  | some listing =>
    let v ← setAll E {} (AuxvListing.parse listing)
    return if v.isEmpty then none else some v

def walk (i : Inferior) (skew : Nat) : StateM (View σ) Auxv := do
  return (← (fromStackPointer E i skew).attempt).getD {}

def fromStack (i : Inferior) : StateM (View σ) Auxv := do
  if !(← View.ask E.runsLinux) then return {}
  if ← View.ask (E.isEmulatedKernel i) then return {}
  let aligned ← walk E i 0
  let v ← if aligned.isEmpty then walk E i 1 else pure aligned
  if v.execFileName?.all (· = "") then
    match ← fileNameFromStack E with
    | some path => return v.insert AuxvKind.execFileName (.str path)
    | none => return v
  else return v

def readNow : StateM (View σ) Auxv := do
  match E.selectedInferior (← get).engine with
  | none => return {}
  | some i =>
    match ← View.ask (listed? E) with
    | some v => return v
    | none => fromStack E i

def get : StateM (View σ) Auxv := View.remembered .auxv () (readNow E)

end AuxvSource

end Debuggee
