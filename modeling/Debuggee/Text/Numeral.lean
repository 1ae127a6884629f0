namespace Debuggee.Text.Numeral

def decimal (n : Nat) : List Char := Nat.toDigits 10 n

def hex (n : Nat) : List Char := Nat.toDigits 16 n

def padded (places : Nat) (digits : List Char) : List Char :=
  List.replicate (places - digits.length) '0' ++ digits

def digit? (base : Nat) (c : Char) : Option Nat :=
  let value :=
    if '0' ≤ c ∧ c ≤ '9' then c.toNat - '0'.toNat
    else if 'a' ≤ c ∧ c ≤ 'z' then c.toNat - 'a'.toNat + 10
    else if 'A' ≤ c ∧ c ≤ 'Z' then c.toNat - 'A'.toNat + 10
    else base
  if value < base then some value else none

def readFrom? (base value : Nat) : List Char → Option Nat
  | [] => some value
  | c :: cs => do readFrom? base (value * base + (← digit? base c)) cs

def digits? (base : Nat) : List Char → Option Nat
  | [] => none
  | cs => readFrom? base 0 cs

def read? (base bound : Nat) (cs : List Char) : Option Nat :=
  let value? := match cs with
    | '+' :: cs => digits? base cs
    | cs => digits? base cs
  value?.filter (· < bound)

def decimal? (bound : Nat) (cs : List Char) : Option Nat := read? 10 bound cs

def hex? (bound : Nat) (cs : List Char) : Option Nat := read? 16 bound cs

def isDigits (cs : List Char) : Bool := !cs.isEmpty && cs.all Char.isDigit

end Debuggee.Text.Numeral
