import Debuggee.Arch.Word
import Debuggee.Mapping

namespace Debuggee

inductive Patch : Type
  | map : Address → Nat → Permissions → Patch
  | unmap : Address → Nat → Patch
  | store : Address → Array UInt8 → Patch

namespace Patch

def covers (start : Address) (size : Nat) (a : Address) : Bool :=
  start ≤ a && a.toNat - start.toNat < size

def page? (a : Address) : Patch → Option (Option Permissions)
  | .map start pages permissions =>
    if covers start.page (pages * Address.pageSize) a then some (some permissions) else none
  | .unmap start pages =>
    if covers start.page (pages * Address.pageSize) a then some none else none
  | .store _ _ => none

def byte? (a : Address) : Patch → Option UInt8
  | .map start pages _ | .unmap start pages =>
    if covers start.page (pages * Address.pageSize) a then some 0 else none
  | .store start bytes =>
    if covers start bytes.size a then bytes[a.toNat - start.toNat]? else none

end Patch

structure Store : Type where
  patches : List Patch := []

namespace Store

def page? (m : Store) (a : Address) : Option Permissions := (m.patches.findSome? (·.page? a)).join

def byte (m : Store) (a : Address) : UInt8 := (m.patches.findSome? (·.byte? a)).getD 0

def readable (m : Store) (a : Address) : Bool := (m.page? a).any (·.read)

def writable (m : Store) (a : Address) : Bool := (m.page? a).any (·.write)

def apply (m : Store) (p : Patch) : Store := ⟨p :: m.patches⟩

def blocked? (ok : Address → Bool) (a : Nat) : Nat → Option Error
  | 0 => none
  | size + 1 =>
    if UInt64.size ≤ a then some (.engine "Cannot access memory")
    else if ok (.ofNat a) then blocked? ok (a + 1) size
    else some (.engine s!"Cannot access memory at address {Address.text (.ofNat a)}")

def bytes (m : Store) (a : Address) (size : Nat) : Bytes :=
  (List.range size).map fun i => m.byte (a + .ofNat i)

def read (m : Store) (a : Address) (size : Nat) : Except Error Bytes :=
  match blocked? m.readable a.toNat size with
  | some e => .error e
  | none => .ok (m.bytes a size)

/-- All bytes of a range must be writable, or none of them changes. -/
def write (m : Store) (a : Address) (bytes : Bytes) : Except Error Store :=
  match blocked? m.writable a.toNat bytes.length with
  | some e => .error e
  | none => .ok (m.apply (.store a bytes.toArray))

def readUntilZero (m : Store) (a : Nat) : Nat → Except Error Bytes
  | 0 => .error (.engine "Cannot access memory")
  | left + 1 =>
    match blocked? m.readable a 1 with
    | some e => .error e
    | none =>
      let b := m.byte (.ofNat a)
      if b = 0 then .ok [] else (readUntilZero m (a + 1) left).map (b :: ·)

def readString (m : Store) (a : Address) : Except Error Bytes :=
  m.readUntilZero a.toNat (UInt64.size - a.toNat)

@[simp] theorem page?_apply (m : Store) (p : Patch) (a : Address) :
    (m.apply p).page? a = (p.page? a).getD (m.page? a) := by
  cases h : p.page? a <;> simp [apply, page?, h]

@[simp] theorem byte_apply (m : Store) (p : Patch) (a : Address) :
    (m.apply p).byte a = (p.byte? a).getD (m.byte a) := by
  cases h : p.byte? a <;> simp [apply, byte, h]

end Store

end Debuggee
