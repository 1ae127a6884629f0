import Debuggee.Engine

namespace Debuggee

def chunkEnd (start stop : Nat) : Nat :=
  min ((start / Address.pageSize + 1) * Address.pageSize) stop

def pageCount (start stop : Nat) : Nat :=
  if start < stop then (stop - 1) / Address.pageSize - start / Address.pageSize + 1 else 0

def chunksFrom (stop : Nat) : Nat → Nat → List (Address × Nat)
  | 0, _ => []
  | pages + 1, start =>
    (.ofNat start, chunkEnd start stop - start) :: chunksFrom stop pages (chunkEnd start stop)

def splitAtPages (a : Address) (size : Nat) : List (Address × Nat) :=
  let stop := (a.addSaturating size).toNat
  chunksFrom stop (pageCount a.toNat stop) a.toNat

/-- The most bytes that a buffer is made for. There is always room for one of as many. -/
def bufferMax : Nat := 0x7fffffffffffffff

namespace Engine

variable {σ ν τ : Type} (E : Engine σ ν τ)

def read (i : Inferior) (a : Address) (size : Nat) : Action σ Bytes :=
  (E.readMemory i a size).orFail (.memoryRead a size)

def readChunks (i : Inferior) (stop : Nat) : Nat → Nat → StateM σ Bytes
  | 0, _ => return []
  | pages + 1, start => do
    let next := chunkEnd start stop
    match ← (E.readMemory i (.ofNat start) (next - start)).attempt with
    | none => return []
    | some bytes => return bytes ++ (← readChunks i stop pages next)

def readPrefix (i : Inferior) (a : Address) (size : Nat) : StateM σ Bytes :=
  let stop := (a.addSaturating size).toNat
  E.readChunks i stop (pageCount a.toNat stop) a.toNat

/-- The leading bytes of a range, into a buffer that is made for all of it. -/
def readBuffered (i : Inferior) (a : Address) (size : Nat) : StateM σ (Except Crash Bytes) := do
  if size ≤ bufferMax then return .ok (← E.readPrefix i a size)
  else return .error .capacityOverflow

def write (i : Inferior) (a : Address) (bytes : Bytes) : Action σ Unit :=
  (E.writeMemory i a bytes).orFail (.memoryWrite a bytes.length)

def writeChunks (i : Inferior) : List (Address × Nat) → Bytes → StateM σ Unit
  | [], _ => return
  | (a, size) :: chunks, bytes => do
    match ← (E.writeMemory i a (bytes.take size)).attempt with
    | none => return
    | some () => writeChunks i chunks (bytes.drop size)

def writePrefix (i : Inferior) (a : Address) (bytes : Bytes) : StateM σ Unit :=
  E.writeChunks i (splitAtPages a bytes.length) bytes

def readAlong (i : Inferior) : List (Address × Nat) → StateM σ Bytes
  | [] => return []
  | (a, size) :: chunks => do
    match ← (E.readMemory i a size).attempt with
    | none => return []
    | some bytes => return bytes ++ (← readAlong i chunks)

theorem readChunks_eq (i : Inferior) (stop : Nat) (pages start : Nat) :
    E.readChunks i stop pages start = E.readAlong i (chunksFrom stop pages start) := by
  induction pages generalizing start with
  | zero => rfl
  | succ pages ih => simp only [readChunks, chunksFrom, readAlong, ih]

theorem readPrefix_eq (i : Inferior) (a : Address) (size : Nat) :
    E.readPrefix i a size = E.readAlong i (splitAtPages a size) :=
  E.readChunks_eq i _ _ _

theorem readBuffered_apply (i : Inferior) (a : Address) (size : Nat) (s : σ) :
    E.readBuffered i a size s =
      if size ≤ bufferMax then (.ok (E.readPrefix i a size s).1, (E.readPrefix i a size s).2)
      else (.error .capacityOverflow, s) := by
  unfold readBuffered
  split <;> rfl

end Engine

end Debuggee
