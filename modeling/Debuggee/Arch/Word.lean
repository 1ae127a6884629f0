import Debuggee.Address

namespace Debuggee

abbrev Bytes := List UInt8

inductive ByteOrder : Type
  | little : ByteOrder
  | big : ByteOrder
  deriving DecidableEq, Repr

def Bytes.value : Bytes → Nat
  | [] => 0
  | b :: bs => b.toNat + 256 * value bs

def Bytes.ofValue : Nat → Nat → Bytes
  | 0, _ => []
  | size + 1, n => .ofNat (n % 256) :: ofValue size (n / 256)

@[simp] theorem Bytes.length_ofValue (size n : Nat) : (ofValue size n).length = size := by
  induction size generalizing n with
  | zero => rfl
  | succ size ih => simp [ofValue, ih]

theorem Bytes.ofValue_value (bytes : Bytes) : ofValue bytes.length bytes.value = bytes := by
  induction bytes with
  | nil => rfl
  | cons b bs ih =>
    have hb := b.toNat_lt
    have h₁ : (b.toNat + 256 * value bs) % 256 = b.toNat := by omega
    have h₂ : (b.toNat + 256 * value bs) / 256 = value bs := by omega
    simp [ofValue, value, h₁, h₂, ih]

namespace ByteOrder

def text : ByteOrder → String
  | .little => "little"
  | .big => "big"

/-- Between the bytes as they lie in memory and the bytes with the least first. -/
def arrange : ByteOrder → Bytes → Bytes
  | .little, bytes => bytes
  | .big, bytes => bytes.reverse

def decode? (order : ByteOrder) (bytes : Bytes) : Option UInt64 :=
  if 1 ≤ bytes.length ∧ bytes.length ≤ 8 then some (.ofNat (order.arrange bytes).value) else none

def encode (order : ByteOrder) (size : Nat) (word : UInt64) : Bytes :=
  order.arrange (.ofValue (min size 8) word.toNat)

@[simp] theorem length_arrange (order : ByteOrder) (bytes : Bytes) :
    (order.arrange bytes).length = bytes.length := by
  cases order <;> simp [arrange]

@[simp] theorem length_encode (order : ByteOrder) (size : Nat) (word : UInt64) :
    (order.encode size word).length = min size 8 := by
  simp [encode]

end ByteOrder

end Debuggee
