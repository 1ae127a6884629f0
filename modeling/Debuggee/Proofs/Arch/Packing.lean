import Debuggee.Proofs.Arch.Word
import Debuggee.Proofs.Memory.Scalars

namespace Debuggee

namespace ByteOrder

def opposite : ByteOrder → ByteOrder
  | .little => .big
  | .big => .little

variable {order : ByteOrder} {bytes : Bytes} {w : UInt64} {size : Nat}

theorem arrange_arrange (order : ByteOrder) (bytes : Bytes) :
    order.arrange (order.arrange bytes) = bytes := by
  cases order with
  | little => rfl
  | big => exact List.reverse_reverse bytes

theorem arrange_opposite_reverse (order : ByteOrder) (bytes : Bytes) :
    order.opposite.arrange bytes.reverse = order.arrange bytes := by
  cases order with
  | little => exact List.reverse_reverse bytes
  | big => rfl

theorem decode?_opposite_reverse (order : ByteOrder) (bytes : Bytes) :
    order.opposite.decode? bytes.reverse = order.decode? bytes := by
  rw [decode?, decode?, arrange_opposite_reverse, List.length_reverse]

theorem decode?_eq_none_iff :
    order.decode? bytes = none ↔ bytes.length = 0 ∨ 8 < bytes.length := by
  unfold decode?
  split
  · next hlength => exact iff_of_false nofun (by omega)
  · next hlength => exact iff_of_true rfl (by omega)

theorem decode?_encode (hpos : 1 ≤ size) (hle : size ≤ 8) (order : ByteOrder) (w : UInt64) :
    order.decode? (order.encode size w) = some (w &&& byteMask size) := by
  have hlength : (order.encode size w).length = size := by
    rw [length_encode, Nat.min_eq_left hle]
  rw [decode?_of_length order hlength hpos hle]
  refine congrArg some (UInt64.toNat_inj.1 ?_)
  have hpow : 256 ^ size = 2 ^ (8 * size) := by rw [show 256 = 2 ^ 8 from rfl, ← Nat.pow_mul]
  rw [encode, arrange_arrange, Nat.min_eq_left hle, Bytes.value_ofValue, toNat_land_byteMask, hpow]
  exact UInt64.toNat_ofNat_of_lt (Nat.lt_of_le_of_lt (Nat.mod_le ..) w.toNat_lt)

theorem encode_of_decode? (h : order.decode? bytes = some w) :
    order.encode bytes.length w = bytes := by
  have hle : bytes.length ≤ 8 := by
    by_contra hlt
    rw [decode?_eq_none_iff.2 (.inr (by omega))] at h
    cases h
  have hvalue : Bytes.ofValue bytes.length w.toNat = order.arrange bytes := by
    rw [toNat_of_decode? h, ← length_arrange order, Bytes.ofValue_value]
  rw [encode, Nat.min_eq_left hle, hvalue, arrange_arrange]

end ByteOrder

namespace Arch

variable {arch : Arch} {bytes : Bytes} {w : UInt64}

theorem length_pack (hle : arch.pointerSize ≤ 8) (w : UInt64) :
    (arch.pack w).length = arch.pointerSize := by
  rw [pack, ByteOrder.length_encode, Nat.min_eq_left hle]

theorem unpack?_pack (hpos : 1 ≤ arch.pointerSize) (hle : arch.pointerSize ≤ 8) (w : UInt64) :
    arch.unpack? (arch.pack w) = some (w &&& arch.mask) := by
  rw [unpack?, pack, ByteOrder.decode?_encode hpos hle]
  exact congrArg some (land_mask_of_lt (toNat_land_mask arch w ▸ Nat.mod_lt _ (Nat.two_pow_pos _)))

theorem pack_of_unpack? (hbytes : bytes.length = arch.pointerSize)
    (h : arch.unpack? bytes = some w) : arch.pack w = bytes := by
  have hlt : w.toNat < 2 ^ (8 * arch.pointerSize) := hbytes ▸ ByteOrder.lt_of_decode? h
  rw [pack, land_mask_of_lt hlt, ← hbytes]
  exact ByteOrder.encode_of_decode? h

end Arch

theorem Engine.Presents.fst_pointer_of_holds {σ ν τ : Type} {E : Engine σ ν τ} {i : Inferior}
    {arch : Arch} {memory : Nat → Option UInt8} {Steady : σ → Prop} {s : σ} {a : Address}
    (h : E.Presents i arch memory Steady) (hs : Steady s) (hpos : 1 ≤ arch.pointerSize)
    (hle : arch.pointerSize ≤ 8) (hfit : a.toNat + arch.pointerSize ≤ UInt64.size) {w : UInt64}
    (hw : Holds memory (List.range' a.toNat arch.pointerSize) (arch.pack w)) :
    (Memory.pointer E a s).1 = .ok (w &&& arch.mask) := by
  obtain ⟨t, ht, hpointer⟩ := Memory.fst_pointer h hs a
  rw [hpointer]
  exact h.fst_word_of_holds ht hfit hw (Arch.unpack?_pack hpos hle w)

/--
Pointers of one to eight bytes. A word is packed into as many bytes as a pointer has, which unpack
to its remainder by the pointer's width; as many bytes of any kind unpack to a word that is packed
into them again. Bytes backwards are read alike in the opposite order, none and more than eight are
not read at all, and in memory a pointer is read back from where it lies packed.
-/
theorem Arch.pack_roundTrip (arch : Arch) (hpos : 1 ≤ arch.pointerSize)
    (hle : arch.pointerSize ≤ 8) :
    (∀ w, (arch.pack w).length = arch.pointerSize ∧
      arch.unpack? (arch.pack w) = some (w &&& arch.mask) ∧
      (w &&& arch.mask).toNat = w.toNat % 2 ^ (8 * arch.pointerSize)) ∧
    (∀ bytes, bytes.length = arch.pointerSize →
      ∃ w, arch.unpack? bytes = some w ∧ arch.pack w = bytes) ∧
    (∀ (order : ByteOrder) bytes,
      order.opposite.decode? bytes.reverse = order.decode? bytes ∧
      (order.decode? bytes = none ↔ bytes.length = 0 ∨ 8 < bytes.length)) ∧
    ∀ {σ ν τ : Type} {E : Engine σ ν τ} {i : Inferior} {memory : Nat → Option UInt8}
      {Steady : σ → Prop}, E.Presents i arch memory Steady → ∀ s, Steady s → ∀ a : Address,
      a.toNat + arch.pointerSize ≤ UInt64.size → ∀ w,
      Holds memory (List.range' a.toNat arch.pointerSize) (arch.pack w) →
        (Memory.pointer E a s).1 = .ok (w &&& arch.mask) := by
  refine ⟨fun w => ⟨length_pack hle w, unpack?_pack hpos hle w, toNat_land_mask arch w⟩,
    fun bytes hbytes => ?_,
    fun order bytes => ⟨order.decode?_opposite_reverse bytes, ByteOrder.decode?_eq_none_iff⟩,
    fun h s hs a hfit w hw => h.fst_pointer_of_holds hs hpos hle hfit hw⟩
  have hdecode := arch.order.decode?_of_length hbytes hpos hle
  exact ⟨_, hdecode, pack_of_unpack? hbytes hdecode⟩

def narrowPointers : Machine :=
  { Memory.twoPages with arch := ⟨"mips", 4, .big⟩ }

theorem Arch.pack_roundTrip_narrowPointers :
    Arch.pack ⟨.mips, 4, .big⟩ 0xfeed00006162 = [0, 0, 97, 98] ∧
      (Memory.pointer Machine.engine 0x1ffc narrowPointers).1 = .ok 0x6162 := by
  have hname : ArchName.ofEngine narrowPointers.arch.name = .ok .mips := by rfl
  obtain ⟨-, -, -, hpointer⟩ :=
    Arch.pack_roundTrip ⟨.mips, 4, .big⟩ (by decide) (by decide)
  have hbytes : Arch.pack ⟨.mips, 4, .big⟩ 0xfeed00006162 = [0, 0, 97, 98] := by decide
  have hheld : Holds narrowPointers.memory.readable? (List.range' 0x1ffc 4) [0, 0, 97, 98] := by
    unfold Holds
    decide +kernel
  refine ⟨hbytes, ?_⟩
  rw [hpointer (narrowPointers.presents hname rfl) narrowPointers rfl 0x1ffc (by decide)
    0xfeed00006162 (hbytes ▸ hheld)]
  rfl

end Debuggee
