import Debuggee.Error

namespace Debuggee

open Text

abbrev Address := UInt64

def byteMask (bytes : Nat) : UInt64 :=
  if 8 ≤ bytes then .ofNat (UInt64.size - 1) else .ofNat ((1 <<< (8 * bytes)) - 1)

namespace Address

def text (a : Address) : String := hexText a.toNat

def add? (a : Address) (offset : Nat) : Option Address :=
  if a.toNat + offset < UInt64.size then some (.ofNat (a.toNat + offset)) else none

def sub? (a : Address) (offset : Nat) : Option Address :=
  if offset ≤ a.toNat then some (.ofNat (a.toNat - offset)) else none

def addSaturating (a : Address) (offset : Nat) : Address :=
  .ofNat (min (a.toNat + offset) (UInt64.size - 1))

def alignDown (a size : Address) : Address := a &&& ~~~(size - 1)

def pageSize : Nat := 0x1000

def lowestMapped : Address := 0x8000

def page (a : Address) : Address := a.alignDown (.ofNat pageSize)

/--
Two hexadecimal digits for every byte of a pointer; bits beyond the pointer are dropped. The width
of the whole text is counted in a word that wraps around, and no width is refused: for a pointer of
32767 bytes and more this is an idealisation, as formatters stop at widths of 65535.
-/
def padded (a : Address) (pointerSize : Nat) : String :=
  let digits := Numeral.hex (a &&& byteMask pointerSize).toNat
  let width := (2 * pointerSize + 2) % UInt64.size
  "0x" ++ String.ofList (Numeral.padded (width - 2) digits)

theorem toNat_of_add? {a b : Address} {offset : Nat} (h : a.add? offset = some b) :
    b.toNat = a.toNat + offset := by
  unfold add? at h
  split at h
  · next hlt =>
    cases h
    exact UInt64.toNat_ofNat_of_lt hlt
  · cases h

theorem toNat_of_sub? {a b : Address} {offset : Nat} (h : a.sub? offset = some b) :
    b.toNat = a.toNat - offset := by
  unfold sub? at h
  split at h
  · cases h
    exact UInt64.toNat_ofNat_of_lt (Nat.lt_of_le_of_lt (Nat.sub_le ..) a.toNat_lt)
  · cases h

@[simp] theorem toNat_addSaturating (a : Address) (offset : Nat) :
    (a.addSaturating offset).toNat = min (a.toNat + offset) (UInt64.size - 1) :=
  UInt64.toNat_ofNat_of_lt (Nat.lt_of_le_of_lt (Nat.min_le_right ..) (by decide))

theorem land_pageMask {n : Nat} (h : n < UInt64.size) :
    n &&& (UInt64.size - pageSize) = n / pageSize * pageSize := by
  have hlow : (n &&& (UInt64.size - pageSize)) % 2 ^ 12 = 0 := by
    rw [Nat.and_mod_two_pow]
    exact Nat.and_zero _
  have hhigh : (n &&& (UInt64.size - pageSize)) / 2 ^ 12 = n / pageSize := by
    rw [Nat.and_div_two_pow]
    exact (Nat.and_two_pow_sub_one_eq_mod _ 52).trans
      (Nat.mod_eq_of_lt (Nat.div_lt_of_lt_mul h))
  rw [← Nat.mod_add_div (n &&& _) (2 ^ 12), hlow, hhigh, Nat.zero_add, Nat.mul_comm]
  rfl

theorem toNat_page (a : Address) : a.page.toNat = a.toNat / pageSize * pageSize := by
  rw [← land_pageMask a.toNat_lt, page, alignDown, UInt64.toNat_and]
  rfl

end Address

end Debuggee
