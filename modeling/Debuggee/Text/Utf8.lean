namespace Debuggee.Text.Utf8

def isContinuation (b : UInt8) : Bool := 0x80 ≤ b && b ≤ 0xbf

def width (b : UInt8) : Nat :=
  if b < 0x80 then 1
  else if 0xc2 ≤ b && b ≤ 0xdf then 2
  else if 0xe0 ≤ b && b ≤ 0xef then 3
  else if 0xf0 ≤ b && b ≤ 0xf4 then 4
  else 0

/--
The second byte must be a continuation; after four lead bytes it must also keep out the longer
forms of shorter characters, the surrogates, and what lies beyond the last code point.
-/
def isSecond (lead b : UInt8) : Bool :=
  if lead = 0xe0 then 0xa0 ≤ b && b ≤ 0xbf
  else if lead = 0xed then 0x80 ≤ b && b ≤ 0x9f
  else if lead = 0xf0 then 0x90 ≤ b && b ≤ 0xbf
  else if lead = 0xf4 then 0x80 ≤ b && b ≤ 0x8f
  else isContinuation b

def low6 (b : UInt8) : Nat := b.toNat % 64

def next : UInt8 → List UInt8 → Option Char × List UInt8
  | a, rest =>
    match width a, rest with
    | 1, _ => (some (Char.ofNat a.toNat), rest)
    | 2, b :: rest =>
      if isSecond a b then (some (Char.ofNat (a.toNat % 32 * 64 + low6 b)), rest)
      else (none, b :: rest)
    | 3, b :: rest =>
      if !isSecond a b then (none, b :: rest)
      else match rest with
        | c :: rest =>
          if isContinuation c then
            (some (Char.ofNat ((a.toNat % 16 * 64 + low6 b) * 64 + low6 c)), rest)
          else (none, c :: rest)
        | [] => (none, [])
    | 4, b :: rest =>
      if !isSecond a b then (none, b :: rest)
      else match rest with
        | c :: rest =>
          if !isContinuation c then (none, c :: rest)
          else match rest with
            | d :: rest =>
              if isContinuation d then
                (some (Char.ofNat
                  (((a.toNat % 8 * 64 + low6 b) * 64 + low6 c) * 64 + low6 d)), rest)
              else (none, d :: rest)
            | [] => (none, [])
        | [] => (none, [])
    | _, rest => (none, rest)

theorem length_next_le (a : UInt8) (rest : List UInt8) :
    (next a rest).2.length ≤ rest.length := by
  unfold next
  repeat' split
  all_goals simp_all
  all_goals omega

def scan : List UInt8 → List (Option Char)
  | [] => []
  | a :: rest =>
    have := length_next_le a rest
    (next a rest).1 :: scan (next a rest).2
  termination_by bytes => bytes.length

def decode? (bytes : List UInt8) : Option (List Char) := (scan bytes).mapM id

def decodeLossy (bytes : List UInt8) : List Char := (scan bytes).map (·.getD '\ufffd')

end Debuggee.Text.Utf8
