import Debuggee.CommandLine.Arguments
import Debuggee.Expression
import Debuggee.Logging
import Debuggee.Arch.Registers

namespace Debuggee

open Text

inductive Command : Type
  | archs : Command
  | registers : ArchName → Command
  | fix : ArchName → String → Command
  | flags : ArchName → Option String → String → Command
  deriving DecidableEq, Repr

namespace Command

def archOption : OptionSpec := ⟨"arch", some 'a', true⟩

def registerOption : OptionSpec := ⟨"reg", some 'r', true⟩

def logOptions : List OptionSpec :=
  [⟨"log-level", none, true⟩, ⟨"log-file", none, false⟩, ⟨"log-dir", none, true⟩]

def logsWell (a : Arguments) : Bool :=
  ((a.value? "log-level").all fun level => (LogLevel.parse level).isOk) &&
    (a.value? "log-dir").all (· ≠ "")

def readArguments (options : List OptionSpec) (words : List String) : Option Arguments := do
  let a ← Arguments.readAll (options ++ logOptions) words
  if logsWell a then some a else none

def arch? (a : Arguments) : Option ArchName := do ArchName.find? (← a.value? "arch")

def parseNamed (name : String) (words : List String) : Option Command :=
  match name with
  | "archs" => do
    match (← readArguments [] words).operands with
    | [] => some .archs
    | _ => none
  | "regs" => do
    let a ← readArguments [archOption] words
    match a.operands with
    | [] => return .registers (← arch? a)
    | _ => none
  | "fix" => do
    let a ← readArguments [archOption] words
    match a.operands with
    | [expression] => return .fix (← arch? a) expression
    | _ => none
  | "flags" => do
    let a ← readArguments [archOption, registerOption] words
    match a.operands with
    | [value] => return .flags (← arch? a) (a.value? "reg") value
    | _ => none
  | _ => none

def parse (words : List String) : Option Command := do
  let (a, name, words) ← Arguments.readUntilOperand logOptions {} words
  if logsWell a then parseNamed name words else none

def number? (word : List Char) : Option Nat :=
  match word with
  | '0' :: 'x' :: digits | '0' :: 'X' :: digits => Numeral.hex? UInt64.size digits
  | digits => Numeral.decimal? UInt64.size digits

def readNumber (text : String) : Except Error UInt64 :=
  let trimmed := trim text.toList
  match number? trimmed with
  | some n => .ok (.ofNat n)
  | none => .error (.invalidArgument s!"invalid value: {String.ofList trimmed}")

def row (label text : String) : String := column 12 label ++ " " ++ text ++ "\n"

def namesOrDash (names : List String) : String :=
  if names.isEmpty then "-" else " ".intercalate names

def archTable : String :=
  row "NAME" "PTRSIZE" ++ String.join (ArchName.all.map fun a =>
    row a.text ((a.pointerSize?.map toString).getD "-"))

def describeRegisters (a : ArchName) : String :=
  let s := a.registers
  s!"=== Registers ({a.text}) ===\n" ++ String.join [
    row "pc" s.pc,
    row "stack" s.stack,
    row "frame" (s.frame.getD "-"),
    row "retaddr" (namesOrDash s.returnAddresses),
    row "flags" (namesOrDash s.flagNames),
    row "extra_flags" (namesOrDash s.extraFlagNames),
    row "gpr" (namesOrDash s.general),
    row "misc" (namesOrDash s.misc),
    row "args" (namesOrDash s.arguments),
    row "retval" (s.result.getD "-"),
    row "common" (namesOrDash s.common),
    row "all" (namesOrDash s.all)]

def chooseFlagRegister (a : ArchName) : Option String → Except Error String
  | some register => .ok register
  | none =>
    match a.registers.flagNames with
    | register :: _ => .ok register
    | [] => .error (.invalidArgument s!"{a.text} has no flag register")

def describeFlags (a : ArchName) (register? : Option String) (value : String) :
    Except Error String := do
  let register ← chooseFlagRegister a register?
  match a.registers.layout? register with
  | none => throw (.invalidArgument s!"{register} is not a flag register of {a.text}")
  | some layout =>
    let value ← readNumber value
    return s!"{register} = {hexText value.toNat} [ {layout.render value} ]\n"

def run : Command → Except Error String
  | .archs => .ok archTable
  | .registers a => .ok (describeRegisters a)
  | .fix a expression => .ok (Expression.fix a.registers.all expression ++ "\n")
  | .flags a register? value => describeFlags a register? value

end Command

structure Outcome : Type where
  exit : Nat
  output : String
  error : Option String
  deriving DecidableEq, Repr

def Outcome.ofCommandLine (words : List String) : Outcome :=
  match Command.parse words with
  | none => ⟨2, "", none⟩
  | some command =>
    match command.run with
    | .ok output => ⟨0, output, none⟩
    | .error e => ⟨1, "", some s!"Error: {e.message}"⟩

end Debuggee
