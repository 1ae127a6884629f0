import Debuggee.Address

namespace Debuggee

structure Permissions : Type where
  read : Bool
  write : Bool
  execute : Bool
  deriving DecidableEq, Repr

namespace Permissions

def parse (text : String) : Permissions :=
  let byte := fun i => text.toUTF8.toList[i]?
  ⟨byte 0 = some 0x72, byte 1 = some 0x77, byte 2 = some 0x78⟩

def text (p : Permissions) : String :=
  String.ofList [
    if p.read then 'r' else '-',
    if p.write then 'w' else '-',
    if p.execute then 'x' else '-']

end Permissions

structure Mapping : Type where
  start : Address
  stop : Address
  permissions : Permissions
  object : Option String
  deriving DecidableEq, Repr

namespace Mapping

def size (m : Mapping) : Nat := m.stop.toNat - m.start.toNat

def contains (m : Mapping) (a : Address) : Bool := m.start ≤ a && a < m.stop

def text (m : Mapping) : String :=
  let range := m.start.text ++ "-" ++ m.stop.text ++ " " ++ m.permissions.text
  match m.object with
  | none => range
  | some object => range ++ " " ++ object

end Mapping

end Debuggee
