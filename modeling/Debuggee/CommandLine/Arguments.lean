namespace Debuggee

structure OptionSpec : Type where
  name : String
  letter : Option Char
  takesValue : Bool
  deriving DecidableEq, Repr

structure Arguments : Type where
  given : List (String × String) := []
  awaiting : Option OptionSpec := none
  operands : List String := []
  closed : Bool := false
  deriving DecidableEq, Repr

namespace Arguments

def isDashed (word : String) : Bool :=
  match word.toList with
  | '-' :: _ :: _ => true
  | _ => false

def cutAtEquals (cs : List Char) : List Char × Option (List Char) :=
  match cs.dropWhile (· ≠ '=') with
  | [] => (cs, none)
  | _ :: rest => (cs.takeWhile (· ≠ '='), some rest)

def give (a : Arguments) (option : OptionSpec) (value : String) : Option Arguments :=
  if (a.given.lookup option.name).isSome then none
  else some { a with given := a.given ++ [(option.name, value)], awaiting := none }

def takeOption (a : Arguments) (option : OptionSpec) (joined : Option (List Char)) :
    Option Arguments :=
  match option.takesValue, joined with
  | true, some value => a.give option (String.ofList value)
  | true, none => some { a with awaiting := some option }
  | false, none => a.give option ""
  | false, some _ => none

def readDashed (options : List OptionSpec) (a : Arguments) (word : String) : Option Arguments :=
  match word.toList with
  | '-' :: '-' :: text => do
    let (name, joined) := cutAtEquals text
    a.takeOption (← options.find? (·.name.toList == name)) joined
  | '-' :: letter :: text => do
    let option ← options.find? (·.letter == some letter)
    let joined := match text with
      | [] => none
      | '=' :: value => some value
      | value => some value
    a.takeOption option joined
  | _ => none

def read (options : List OptionSpec) (a : Arguments) (word : String) : Option Arguments :=
  if a.closed then some { a with operands := a.operands ++ [word] }
  else match a.awaiting with
    | some option => if isDashed word then none else a.give option word
    | none =>
      if word = "--" then some { a with closed := true }
      else if isDashed word then readDashed options a word
      else some { a with operands := a.operands ++ [word] }

def readAll (options : List OptionSpec) (words : List String) : Option Arguments := do
  let a ← words.foldlM (read options) {}
  if a.awaiting.isSome then none else some a

def readUntilOperand (options : List OptionSpec) (a : Arguments) :
    List String → Option (Arguments × String × List String)
  | [] => none
  | word :: words =>
    if a.awaiting.isNone && !isDashed word then some (a, word, words)
    else do
      let a ← read options a word
      if a.closed then none else readUntilOperand options a words

def value? (a : Arguments) (name : String) : Option String := a.given.lookup name

end Arguments

end Debuggee
