import Debuggee.Observer
import Debuggee.Memory

namespace Debuggee

namespace Boundary

variable {σ ν τ : Type} (E : Engine σ ν τ)

/--
Climbs readable pages, at most so many. Beyond the last address that a pointer can hold there is
nothing, and the climb ends at that address.
-/
def climb (i : Inferior) (mask : UInt64) : Nat → Address → StateM σ Address
  | 0, cursor => return cursor
  | pages + 1, cursor => do
    match ← (E.read i cursor 1).attempt with
    | none => return cursor
    | some _ =>
      match cursor.add? Address.pageSize with
      | none => return mask
      | some next => if next ≤ mask then climb i mask pages next else return mask

def descend (i : Inferior) : Nat → Address → Address → StateM σ Address
  | 0, lowest, _ => return lowest
  | pages + 1, lowest, cursor => do
    match ← (E.read i cursor 1).attempt with
    | none => return lowest
    | some _ =>
      match cursor.sub? Address.pageSize with
      | none => return 0
      | some below => descend i pages cursor below

def findUpper (a : Address) (maxPages : Nat) : StateM σ Address := do
  match E.selectedInferior (← get) with
  | none => return a.page
  | some i =>
    let mask := ((← (E.archOf i).attempt).map (·.mask)).getD (byteMask 8)
    climb E i mask maxPages a.page

def findLower (a : Address) (maxPages : Nat) : StateM σ Address := do
  match E.selectedInferior (← get) with
  | none => return a.page
  | some i => descend E i maxPages a.page a.page

def maxPages (max? : Option Nat) : StateM (View σ) Nat := do
  return max?.getD (← get).observer.config.maxPages

def upper (a : Address) (max? : Option Nat) : StateM (View σ) Address := do
  let max ← maxPages max?
  View.remembered .upper (a, max) (View.ask (findUpper E a max))

def lower (a : Address) (max? : Option Nat) : StateM (View σ) Address := do
  let max ← maxPages max?
  View.remembered .lower (a, max) (View.ask (findLower E a max))

def isReadable (a : Address) : StateM (View σ) Bool :=
  View.remembered .readable a (View.ask (Memory.probe E a))

def string (a : Address) (max? : Option Nat) : StateM (View σ) Bytes := do
  let max := max?.getD (← get).observer.config.stringMax
  View.ask (Memory.string E a max)

def stringBuffered (a : Address) (max? : Option Nat) : StateM (View σ) (Except Crash Bytes) := do
  let max := max?.getD (← get).observer.config.stringMax
  View.ask (Memory.stringBuffered E a max)

def imageStart : Bytes := [0x7f, 0x45, 0x4c, 0x46]

def isStackTop (a : Address) : StateM σ Bool := do
  match ← (Memory.read E a imageStart.length).attempt with
  | none => return true
  | some bytes => return bytes = imageStart

def climbStack : Nat → Address → StateM σ Address
  | pages, cursor => do
    if ← isStackTop E cursor then return cursor
    match pages with
    | 0 => return cursor
    | pages + 1 => climbStack pages (cursor + .ofNat Address.pageSize)

def pagesAbove (a : Address) : Nat := (UInt64.size - 1 - a.toNat) / Address.pageSize

def stackTop (a : Address) : StateM σ Address := climbStack E (pagesAbove a.page) a.page

end Boundary

end Debuggee
