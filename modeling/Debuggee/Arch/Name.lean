import Debuggee.Error
import Debuggee.Text.Blank
import Debuggee.Text.Search

namespace Debuggee

open Text

inductive ArchName : Type
  | x8664 : ArchName
  | i386 : ArchName
  | i8086 : ArchName
  | aarch64 : ArchName
  | mips : ArchName
  | powerpc : ArchName
  | sparc : ArchName
  | arm : ArchName
  | armcm : ArchName
  | riscv32 : ArchName
  | riscv64 : ArchName
  | riscv : ArchName
  deriving DecidableEq, Repr

namespace ArchName

def all : List ArchName :=
  [.x8664, .i386, .i8086, .aarch64, .mips, .powerpc, .sparc, .arm, .armcm, .riscv32, .riscv64,
    .riscv]

def text : ArchName → String
  | .x8664 => "x86-64"
  | .i386 => "i386"
  | .i8086 => "i8086"
  | .aarch64 => "aarch64"
  | .mips => "mips"
  | .powerpc => "powerpc"
  | .sparc => "sparc"
  | .arm => "arm"
  | .armcm => "armcm"
  | .riscv32 => "riscv:rv32"
  | .riscv64 => "riscv:rv64"
  | .riscv => "riscv"

def pointerSize? : ArchName → Option Nat
  | .x8664 | .aarch64 | .riscv64 => some 8
  | .i386 | .arm | .armcm | .riscv32 => some 4
  | .i8086 => some 2
  | .mips | .powerpc | .sparc | .riscv => none

def isX86 : ArchName → Bool
  | .x8664 | .i386 | .i8086 => true
  | _ => false

def find? (name : String) : Option ArchName := all.find? (·.text == name)

def parse (name : String) : Except Error ArchName :=
  match find? name with
  | some arch => .ok arch
  | none => .error (.unknownArchitecture name)

def families : List (String × ArchName) := [
  ("i386:x86-64", .x8664), ("i386", .i386), ("i8086", .i8086), ("aarch64", .aarch64),
  ("arm", .arm), ("mips", .mips), ("powerpc", .powerpc), ("rs6000", .powerpc),
  ("sparc", .sparc), ("riscv", .riscv)]

def isMicrocontroller (name : List Char) : Bool :=
  "arm".toList.isPrefixOf name && mentions "-m".toList name

def family? (name : List Char) : Option ArchName :=
  if name = "x86_64".toList then some .x8664
  else if isMicrocontroller name then some .armcm
  else (families.find? fun (start, _) => start.toList.isPrefixOf name).map (·.2)

/--
What an engine reports, blanks around it and the case of its ASCII letters aside: a registry name,
or else a name of one of the families.
-/
def ofEngine (reported : String) : Except Error ArchName :=
  let name := (trim reported.toList).map Char.toLower
  match find? (String.ofList name) <|> family? name with
  | some arch => .ok arch
  | none => .error (.unknownArchitecture reported)

end ArchName

end Debuggee
