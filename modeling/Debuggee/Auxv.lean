import Debuggee.Address
import Debuggee.Assoc
import Debuggee.Text.Blank
import Debuggee.Text.Quoted

namespace Debuggee

open Text

namespace AuxvKind

def base : UInt64 := 7
def entry : UInt64 := 9
def platform : UInt64 := 15
def execFileName : UInt64 := 31

def names : List (UInt64 × String) := [
  (0, "AT_NULL"), (1, "AT_IGNORE"), (2, "AT_EXECFD"), (3, "AT_PHDR"), (4, "AT_PHENT"),
  (5, "AT_PHNUM"), (6, "AT_PAGESZ"), (7, "AT_BASE"), (8, "AT_FLAGS"), (9, "AT_ENTRY"),
  (10, "AT_NOTELF"), (11, "AT_UID"), (12, "AT_EUID"), (13, "AT_GID"), (14, "AT_EGID"),
  (15, "AT_PLATFORM"), (16, "AT_HWCAP"), (17, "AT_CLKTCK"), (18, "AT_FPUCW"),
  (19, "AT_DCACHEBSIZE"), (20, "AT_ICACHEBSIZE"), (21, "AT_UCACHEBSIZE"), (22, "AT_IGNOREPPC"),
  (23, "AT_SECURE"), (24, "AT_BASE_PLATFORM"), (25, "AT_RANDOM"), (31, "AT_EXECFN"),
  (32, "AT_SYSINFO"), (33, "AT_SYSINFO_EHDR"), (34, "AT_L1I_CACHESHAPE"),
  (35, "AT_L1D_CACHESHAPE"), (36, "AT_L2_CACHESHAPE"), (37, "AT_L3_CACHESHAPE")]

def name (kind : UInt64) : String := (names.lookup kind).getD s!"AT_UNKNOWN{kind}"

def isString (kind : UInt64) : Bool := kind == execFileName || kind == platform

end AuxvKind

inductive AuxvValue : Type
  | int : UInt64 → AuxvValue
  | str : String → AuxvValue
  | unreadable : UInt64 → AuxvValue
  deriving DecidableEq, Repr

namespace AuxvValue

def text : AuxvValue → String
  | .int n => hexText n.toNat
  | .str s => String.ofList (quoted s.toList)
  | .unreadable a => hexText a.toNat ++ " <unreadable>"

def int? : AuxvValue → Option UInt64
  | .int n => some n
  | _ => none

def str? : AuxvValue → Option String
  | .str s => some s
  | _ => none

end AuxvValue

structure Auxv : Type where
  entries : List (UInt64 × AuxvValue) := []
  deriving DecidableEq, Repr

namespace Auxv

def empty : Auxv := {}

def insert (v : Auxv) (kind : UInt64) (value : AuxvValue) : Auxv :=
  ⟨Assoc.store kind value v.entries⟩

def get? (v : Auxv) (kind : UInt64) : Option AuxvValue := v.entries.lookup kind

def named? (v : Auxv) (name : String) : Option AuxvValue :=
  (v.entries.find? fun (kind, _) => AuxvKind.name kind == name).map (·.2)

def int? (v : Auxv) (kind : UInt64) : Option UInt64 := (v.get? kind).bind (·.int?)

def str? (v : Auxv) (kind : UInt64) : Option String := (v.get? kind).bind (·.str?)

def execFileName? (v : Auxv) : Option String := v.str? AuxvKind.execFileName

def base? (v : Auxv) : Option UInt64 := v.int? AuxvKind.base

def entry? (v : Auxv) : Option UInt64 := v.int? AuxvKind.entry

def size (v : Auxv) : Nat := v.entries.length

def isEmpty (v : Auxv) : Bool := v.entries.isEmpty

def text (v : Auxv) : String :=
  String.join (v.entries.map fun (kind, value) =>
    column 20 (AuxvKind.name kind) ++ " " ++ value.text ++ "\n")

end Auxv

end Debuggee
