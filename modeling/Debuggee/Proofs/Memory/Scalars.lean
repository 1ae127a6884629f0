import Debuggee.Proofs.Engine.Still
import Debuggee.Proofs.Memory.Prefix
import Mathlib.Algebra.Group.Nat.Defs
import Mathlib.Tactic.FinCases

namespace Debuggee

variable {σ ν τ : Type}

theorem Holds.length_eq {memory : Nat → Option UInt8} {addresses : List Nat} {bytes : Bytes}
    (h : Holds memory addresses bytes) : bytes.length = addresses.length := by
  have hlength := congrArg List.length h
  rw [List.length_map, List.length_map] at hlength
  exact hlength.symm

namespace Bytes

theorem value_append (bytes more : Bytes) :
    value (bytes ++ more) = value bytes + 256 ^ bytes.length * value more := by
  induction bytes with
  | nil => simp [value]
  | cons b bytes ih =>
    rw [List.cons_append, value, ih, value, List.length_cons, Nat.pow_succ', Nat.mul_add,
      Nat.add_assoc, Nat.mul_assoc]

theorem value_lt (bytes : Bytes) : value bytes < 256 ^ bytes.length := by
  induction bytes with
  | nil => exact Nat.one_pos
  | cons b bytes ih =>
    have hb : b.toNat < 256 := b.toNat_lt
    rw [value, List.length_cons, Nat.pow_succ']
    omega

end Bytes

namespace ByteOrder

def lower {α : Type} (order : ByteOrder) (first second : α) : α :=
  match order with
  | .little => first
  | .big => second

def higher {α : Type} (order : ByteOrder) (first second : α) : α :=
  match order with
  | .little => second
  | .big => first

variable {order : ByteOrder} {bytes : Bytes} {w : UInt64}

theorem decode?_of_length (order : ByteOrder) {size : Nat} (hlength : bytes.length = size)
    (hpos : 1 ≤ size) (hle : size ≤ 8) :
    order.decode? bytes = some (.ofNat (order.arrange bytes).value) :=
  if_pos ⟨hlength ▸ hpos, hlength ▸ hle⟩

theorem toNat_of_decode? (h : order.decode? bytes = some w) :
    w.toNat = (order.arrange bytes).value := by
  unfold decode? at h
  split at h
  · next hlength =>
    cases h
    refine UInt64.toNat_ofNat_of_lt (Nat.lt_of_lt_of_le (Bytes.value_lt _) ?_)
    rw [length_arrange]
    exact Nat.pow_le_pow_right (by decide) hlength.2
  · cases h

theorem lt_of_decode? (h : order.decode? bytes = some w) : w.toNat < 2 ^ (8 * bytes.length) := by
  have hlt := Bytes.value_lt (order.arrange bytes)
  rwa [length_arrange, ← toNat_of_decode? h, show 256 = 2 ^ 8 from rfl, ← Nat.pow_mul] at hlt

theorem value_arrange_append {first second : Bytes} (h : first.length = second.length) :
    (order.arrange (first ++ second)).value =
      (order.arrange (order.lower first second)).value +
        256 ^ first.length * (order.arrange (order.higher first second)).value := by
  cases order with
  | little => exact Bytes.value_append first second
  | big =>
    show Bytes.value (first ++ second).reverse = _
    rw [List.reverse_append, Bytes.value_append, List.length_reverse, ← h]
    rfl

theorem toNat_lower_decode? {first second : Bytes} {x y : UInt64}
    (hx : order.decode? first = some x) (hy : order.decode? second = some y) :
    (order.lower x y).toNat = (order.arrange (order.lower first second)).value := by
  cases order with
  | little => exact toNat_of_decode? hx
  | big => exact toNat_of_decode? hy

theorem toNat_higher_decode? {first second : Bytes} {x y : UInt64}
    (hx : order.decode? first = some x) (hy : order.decode? second = some y) :
    (order.higher x y).toNat = (order.arrange (order.higher first second)).value := by
  cases order with
  | little => exact toNat_of_decode? hy
  | big => exact toNat_of_decode? hx

end ByteOrder

def twosComplement (bits n : Nat) : Int :=
  if n < 2 ^ (bits - 1) then n else (n : Int) - (2 ^ bits : Nat)

theorem signedValue_eq {size : Nat} (hsize : 1 ≤ size) {w : UInt64}
    (hw : w.toNat < 2 ^ (8 * size)) :
    signedValue size w = twosComplement (8 * size) w.toNat := by
  have hhalf : 2 ^ (8 * size) = 2 * 2 ^ (8 * size - 1) := by
    rw [← Nat.pow_succ', Nat.succ_eq_add_one, Nat.sub_add_cancel (by omega)]
  unfold signedValue twosComplement
  rw [Nat.one_shiftLeft, Int.bmod, Int.emod_eq_of_lt (Int.natCast_nonneg _) (Int.ofNat_lt.2 hw)]
  generalize 2 ^ (8 * size) = m at *
  split <;> split <;> omega

namespace Engine

/-- While the engine is steady, the selected inferior has this architecture and this memory. -/
structure Presents (E : Engine σ ν τ) (i : Inferior) (arch : Arch) (memory : Nat → Option UInt8)
    (Steady : σ → Prop) : Prop extends E.Serves i memory Steady where
  selected : ∀ {s}, Steady s → E.selectedInferior s = some i
  archOf : ∀ {s}, Steady s → (E.archOf i s).1 = .ok arch
  steady_archOf : ∀ {s}, Steady s → Steady (E.archOf i s).2

namespace Presents

variable {E : Engine σ ν τ} {i : Inferior} {arch : Arch} {memory : Nat → Option UInt8}
  {Steady : σ → Prop} {s s' : σ} {a : Address} {size : Nat}

theorem exists_archOf (h : E.Presents i arch memory Steady) (hs : Steady s) :
    ∃ s', Steady s' ∧ E.archOf i s = (.ok arch, s') :=
  ⟨_, h.steady_archOf hs, Prod.ext (h.archOf hs) rfl⟩

theorem exists_currentArch (h : E.Presents i arch memory Steady) (hs : Steady s) :
    ∃ s', Steady s' ∧ E.currentArch s = (.ok arch, s') := by
  obtain ⟨s', hs', harch⟩ := h.exists_archOf hs
  refine ⟨s', hs', ?_⟩
  rw [currentArch, Action.bind_apply, inferior_apply (h.selected hs)]
  exact harch

theorem fst_word (h : E.Presents i arch memory Steady) (hs : Steady s) (a : Address) (size : Nat) :
    ∃ s', Steady s' ∧ (Memory.word E a size s).1 = (E.read i a size s').1.bind fun bytes =>
      ((if bytes.length = size then arch.order.decode? bytes else none).elim
        (.error (.memoryRead a size)) .ok) := by
  obtain ⟨s', hs', harch⟩ := h.exists_archOf hs
  refine ⟨s', hs', ?_⟩
  rw [Memory.word, Action.bind_apply, inferior_apply (h.selected hs)]
  dsimp only
  rw [Action.bind_apply, harch]
  dsimp only
  rw [Action.bind_apply]
  rcases E.read i a size s' with ⟨e | bytes, t⟩
  · rfl
  · dsimp only [Except.bind]
    cases (if bytes.length = size then arch.order.decode? bytes else none) <;> rfl

theorem fst_word_of_holds (h : E.Presents i arch memory Steady) (hs : Steady s)
    (hfit : a.toNat + size ≤ UInt64.size) {bytes : Bytes} {w : UInt64}
    (hbytes : Holds memory (List.range' a.toNat size) bytes)
    (hw : arch.order.decode? bytes = some w) : (Memory.word E a size s).1 = .ok w := by
  obtain ⟨s', hs', hword⟩ := h.fst_word hs a size
  have hlength : bytes.length = size := hbytes.length_eq.trans List.length_range'
  rw [hword, (h.read_eq_ok hs' hfit).2 hbytes, Except.bind, if_pos hlength, hw]
  rfl

theorem fst_word_of_none (h : E.Presents i arch memory Steady) (hs : Steady s)
    (hfit : a.toNat + size ≤ UInt64.size) {c : Nat} (hc : c ∈ List.range' a.toNat size)
    (hnone : memory c = none) : (Memory.word E a size s).1 = .error (.memoryRead a size) := by
  obtain ⟨s', hs', hword⟩ := h.fst_word hs a size
  rw [hword, h.read_eq_error hs' hfit hc hnone]
  rfl

theorem holds_or_none (memory : Nat → Option UInt8) (addresses : List Nat) :
    (∃ bytes, Holds memory addresses bytes) ∨ ∃ c ∈ addresses, memory c = none := by
  by_cases hnone : ∃ c ∈ addresses, memory c = none
  · exact .inr hnone
  · exact .inl (Holds.exists_of_ne_none fun c hc hc' => hnone ⟨c, hc, hc'⟩)

theorem holds_of_fst_word (h : E.Presents i arch memory Steady) (hs : Steady s)
    (hfit : a.toNat + size ≤ UInt64.size) (hpos : 1 ≤ size) (hle : size ≤ 8) {w : UInt64}
    (hw : (Memory.word E a size s).1 = .ok w) :
    ∃ bytes, Holds memory (List.range' a.toNat size) bytes ∧ bytes.length = size ∧
      arch.order.decode? bytes = some w := by
  rcases holds_or_none memory (List.range' a.toNat size) with ⟨bytes, hbytes⟩ | ⟨c, hc, hnone⟩
  · have hlength : bytes.length = size := hbytes.length_eq.trans List.length_range'
    have hdecode := arch.order.decode?_of_length hlength hpos hle
    rw [h.fst_word_of_holds hs hfit hbytes hdecode] at hw
    exact ⟨bytes, hbytes, hlength, hdecode.trans (congrArg some (Except.ok.inj hw))⟩
  · rw [h.fst_word_of_none hs hfit hc hnone] at hw
    cases hw

theorem fst_word_congr (h : E.Presents i arch memory Steady) (hs : Steady s) (hs' : Steady s')
    (hfit : a.toNat + size ≤ UInt64.size) (hpos : 1 ≤ size) (hle : size ≤ 8) :
    (Memory.word E a size s').1 = (Memory.word E a size s).1 := by
  rcases holds_or_none memory (List.range' a.toNat size) with ⟨bytes, hbytes⟩ | ⟨c, hc, hnone⟩
  · have hlength : bytes.length = size := hbytes.length_eq.trans List.length_range'
    have hdecode := arch.order.decode?_of_length hlength hpos hle
    rw [h.fst_word_of_holds hs hfit hbytes hdecode, h.fst_word_of_holds hs' hfit hbytes hdecode]
  · rw [h.fst_word_of_none hs hfit hc hnone, h.fst_word_of_none hs' hfit hc hnone]

end Presents

end Engine

namespace Memory

variable {E : Engine σ ν τ} {i : Inferior} {arch : Arch} {memory : Nat → Option UInt8}
  {Steady : σ → Prop} {s s' t : σ} {a : Address}

section

variable {half : Nat}

theorem range'_halves (a : Address) (half : Nat) (h : a.toNat + half < UInt64.size) :
    List.range' a.toNat (2 * half) =
      List.range' a.toNat half ++ List.range' (a + .ofNat half).toNat half := by
  rw [UInt64.toNat_add, UInt64.toNat_ofNat_of_lt' (by omega), Nat.mod_eq_of_lt h,
    List.range'_append_1, Nat.two_mul]

theorem word_iff_halves (h : E.Presents i arch memory Steady) (hs : Steady s) (hs' : Steady s')
    (ht : Steady t) (hpos : 1 ≤ half) (hle : half ≤ 4) (hfit : a.toNat + 2 * half ≤ UInt64.size) :
    (∀ w, (word E a (2 * half) t).1 = .ok w → ∃ x y, (word E a half s).1 = .ok x ∧
      (word E (a + .ofNat half) half s').1 = .ok y) ∧
    ∀ x y, (word E a half s).1 = .ok x → (word E (a + .ofNat half) half s').1 = .ok y →
      ∃ w, (word E a (2 * half) t).1 = .ok w ∧
        w.toNat =
          (arch.order.lower x y).toNat + 2 ^ (8 * half) * (arch.order.higher x y).toNat := by
  have hmiddle : a.toNat + half < UInt64.size := by omega
  have hrange := range'_halves a half hmiddle
  have hfit₁ : a.toNat + half ≤ UInt64.size := by omega
  have hfit₂ : (a + .ofNat half).toNat + half ≤ UInt64.size := by
    rw [UInt64.toNat_add, UInt64.toNat_ofNat_of_lt' (by omega), Nat.mod_eq_of_lt hmiddle]
    omega
  refine ⟨fun w hw => ?_, fun x y hx hy => ?_⟩
  · obtain ⟨bytes, hbytes, -, -⟩ := h.holds_of_fst_word ht hfit (by omega) (by omega) hw
    rw [hrange] at hbytes
    obtain ⟨first, second, -, hfirst, hsecond⟩ := Holds.append_iff.1 hbytes
    have hlength₁ : first.length = half := hfirst.length_eq.trans List.length_range'
    have hlength₂ : second.length = half := hsecond.length_eq.trans List.length_range'
    exact ⟨_, _,
      h.fst_word_of_holds hs hfit₁ hfirst
        (arch.order.decode?_of_length hlength₁ hpos (by omega)),
      h.fst_word_of_holds hs' hfit₂ hsecond
        (arch.order.decode?_of_length hlength₂ hpos (by omega))⟩
  · obtain ⟨first, hfirst, hlength₁, hx⟩ := h.holds_of_fst_word hs hfit₁ hpos (by omega) hx
    obtain ⟨second, hsecond, hlength₂, hy⟩ := h.holds_of_fst_word hs' hfit₂ hpos (by omega) hy
    have hbytes : Holds memory (List.range' a.toNat (2 * half)) (first ++ second) :=
      hrange ▸ Holds.append_iff.2 ⟨_, _, rfl, hfirst, hsecond⟩
    have hlength : (first ++ second).length = 2 * half := by
      rw [List.length_append, hlength₁, hlength₂, Nat.two_mul]
    have hdecode := arch.order.decode?_of_length hlength (by omega) (by omega)
    refine ⟨_, h.fst_word_of_holds ht hfit hbytes hdecode, ?_⟩
    rw [ByteOrder.toNat_of_decode? hdecode,
      ByteOrder.value_arrange_append (hlength₁.trans hlength₂.symm),
      ByteOrder.toNat_lower_decode? hx hy, ByteOrder.toNat_higher_decode? hx hy, hlength₁,
      show 256 = 2 ^ 8 from rfl, ← Nat.pow_mul]

end

theorem fst_signed (E : Engine σ ν τ) (a : Address) (size : Nat) (s : σ) :
    (signed E a size s).1 = (word E a size s).1.map (signedValue size) := by
  rw [signed, Action.bind_apply]
  rcases word E a size s with ⟨e | w, t⟩ <;> rfl

theorem fst_signed_eq (h : E.Presents i arch memory Steady) (hs : Steady s) {size : Nat}
    (hfit : a.toNat + size ≤ UInt64.size) (hpos : 1 ≤ size) (hle : size ≤ 8) :
    (signed E a size s).1 =
      (word E a size s).1.map fun w => twosComplement (8 * size) w.toNat := by
  rw [fst_signed]
  cases hw : (word E a size s).1 with
  | error e => rfl
  | ok w =>
    obtain ⟨bytes, -, hlength, hdecode⟩ := h.holds_of_fst_word hs hfit hpos hle hw
    have hlt := ByteOrder.lt_of_decode? hdecode
    rw [hlength] at hlt
    exact congrArg Except.ok (signedValue_eq hpos hlt)

theorem unsigned_some {size : Nat} (hsize : size ∈ [1, 2, 4, 8]) :
    unsigned E a (some (8 * size)) = word E a size := by
  have hwidth : [8, 16, 32, 64].contains (8 * size) = true := by
    fin_cases hsize <;> rfl
  have hbytes : 8 * size / 8 = size := Nat.mul_div_cancel_left size (by decide)
  simp only [unsigned, pure_bind, hwidth, if_true, hbytes]

theorem fst_pointer (h : E.Presents i arch memory Steady) (hs : Steady s) (a : Address) :
    ∃ s', Steady s' ∧ (pointer E a s).1 = (word E a arch.pointerSize s').1 := by
  obtain ⟨s', hs', harch⟩ := h.exists_currentArch hs
  refine ⟨s', hs', ?_⟩
  rw [pointer, Action.bind_apply, harch]

theorem fst_unsigned_none (h : E.Presents i arch memory Steady) (hs : Steady s) (a : Address) :
    ∃ s', Steady s' ∧
      (unsigned E a none s).1 = (unsigned E a (some arch.pointerBits) s').1 := by
  obtain ⟨s', hs', harch⟩ := h.exists_currentArch hs
  refine ⟨s', hs', ?_⟩
  simp only [unsigned, pure_bind, Action.bind_apply, harch]

theorem fst_unsigned_of_notMem {bits : Nat} (hbits : bits ∉ [8, 16, 32, 64]) (s : σ) :
    (unsigned E a (some bits) s).1 =
      .error (.invalidArgument s!"unsupported integer width {bits}") := by
  have hwidth : [8, 16, 32, 64].contains bits = false := by simpa using hbits
  simp only [unsigned, pure_bind, hwidth]
  rfl

theorem fst_unsigned_pointerBits (h : E.Presents i arch memory Steady) (hs : Steady s)
    (hs' : Steady s') {n : Nat} (hn : n ∈ [1, 2, 4, 8]) (hfit : a.toNat + n ≤ UInt64.size)
    (hsize : arch.pointerSize = n) : (unsigned E a none s).1 = (word E a n s').1 := by
  have hbits : arch.pointerBits = 8 * n := by
    rw [Arch.pointerBits, hsize]
    fin_cases hn <;> rfl
  have hbounds : 1 ≤ n ∧ n ≤ 8 := by
    fin_cases hn <;> decide
  obtain ⟨t, ht, hdefault⟩ := fst_unsigned_none h hs a
  rw [hdefault, hbits, unsigned_some hn]
  exact h.fst_word_congr hs' ht hfit hbounds.1 hbounds.2

/--
Numbers of two, four or eight bytes are read if both their halves are, and made up of them in the
target's byte order. A number of which a byte cannot be read is not read at all, and the error names
its address and its size. As a signed number it is its two's complement, a read of so many bits, or
of a pointer of that size, is a read of that number, and no other widths can be read.
-/
theorem word_of_halves (h : E.Presents i arch memory Steady) (a : Address) :
    (∀ n ∈ [2, 4, 8], a.toNat + n ≤ UInt64.size → ∀ s s' t, Steady s → Steady s' → Steady t →
      ((∃ w, (word E a n t).1 = .ok w) ↔ (∃ x, (word E a (n / 2) s).1 = .ok x) ∧
        ∃ y, (word E (a + .ofNat (n / 2)) (n / 2) s').1 = .ok y) ∧
      ∀ w x y, (word E a n t).1 = .ok w → (word E a (n / 2) s).1 = .ok x →
        (word E (a + .ofNat (n / 2)) (n / 2) s').1 = .ok y →
          w.toNat = (arch.order.lower x y).toNat +
            2 ^ (4 * n) * (arch.order.higher x y).toNat) ∧
    (∀ n ∈ [1, 2, 4, 8], a.toNat + n ≤ UInt64.size → ∀ s s', Steady s → Steady s' →
      ((∃ c, a.toNat ≤ c ∧ c < a.toNat + n ∧ memory c = none) →
        (word E a n s).1 = .error (.memoryRead a n)) ∧
      (signed E a n s).1 = (word E a n s).1.map (fun w => twosComplement (8 * n) w.toNat) ∧
      (unsigned E a (some (8 * n)) s).1 = (word E a n s).1 ∧
      (arch.pointerSize = n → (pointer E a s).1 = (word E a n s').1 ∧
        (unsigned E a none s).1 = (word E a n s').1)) ∧
    ∀ bits ∉ [8, 16, 32, 64], ∀ s,
      (unsigned E a (some bits) s).1 =
        .error (.invalidArgument s!"unsupported integer width {bits}") ∧
      (Steady s → arch.pointerBits = bits → (unsigned E a none s).1 =
        .error (.invalidArgument s!"unsupported integer width {bits}")) := by
  refine ⟨fun n hn hfit s s' t hs hs' ht => ?_, fun n hn hfit s s' hs hs' => ?_,
    fun bits hbits s => ⟨fst_unsigned_of_notMem hbits s, fun hs hwidth => ?_⟩⟩
  · obtain ⟨half, rfl, hpos, hle⟩ : ∃ half, n = 2 * half ∧ 1 ≤ half ∧ half ≤ 4 := by
      fin_cases hn
      · exact ⟨1, by decide⟩
      · exact ⟨2, by decide⟩
      · exact ⟨4, by decide⟩
    obtain ⟨hhalves, hwhole⟩ := word_iff_halves h hs hs' ht hpos hle hfit
    rw [Nat.mul_div_cancel_left half (by decide), ← Nat.mul_assoc]
    refine ⟨⟨?_, ?_⟩, fun w x y hw hx hy => ?_⟩
    · rintro ⟨w, hw⟩
      obtain ⟨x, y, hx, hy⟩ := hhalves w hw
      exact ⟨⟨x, hx⟩, y, hy⟩
    · rintro ⟨⟨x, hx⟩, y, hy⟩
      obtain ⟨w, hw, -⟩ := hwhole x y hx hy
      exact ⟨w, hw⟩
    · obtain ⟨w', hw', hvalue⟩ := hwhole x y hx hy
      cases hw.symm.trans hw'
      exact hvalue
  · have hbounds : 1 ≤ n ∧ n ≤ 8 := by
      fin_cases hn <;> decide
    refine ⟨?_, fst_signed_eq h hs hfit hbounds.1 hbounds.2, by rw [unsigned_some hn],
      fun hsize => ⟨?_, fst_unsigned_pointerBits h hs hs' hn hfit hsize⟩⟩
    · rintro ⟨c, hle, hlt, hnone⟩
      exact h.fst_word_of_none hs hfit (List.mem_range'_1.2 ⟨hle, hlt⟩) hnone
    · obtain ⟨t, ht, hpointer⟩ := fst_pointer h hs a
      rw [hpointer, hsize]
      exact h.fst_word_congr hs' ht hfit hbounds.1 hbounds.2
  · obtain ⟨t, -, hdefault⟩ := fst_unsigned_none h hs a
    rw [hdefault, hwidth, fst_unsigned_of_notMem hbits]

end Memory

theorem Machine.presents (m : Machine) {name : ArchName}
    (hname : ArchName.ofEngine m.arch.name = .ok name) (hpresent : m.present = true) :
    Machine.engine.Presents ⟨1⟩ ⟨name, m.arch.pointerSize, m.arch.order⟩ m.memory.readable?
      (· = m) where
  toServes := m.serves
  selected {s} hs := by
    subst hs
    simp [engine, hpresent]
  archOf {s} hs := by
    subst hs
    exact fst_archOf hname ⟨1⟩
  steady_archOf {s} hs := (isStill.snd_archOf ⟨1⟩ s).trans hs

namespace Memory

theorem word_of_halves_twoPages :
    (word Machine.engine 0x1ffe 2 twoPages).1 = .ok 0x6261 ∧
      (word Machine.engine 0x2000 2 twoPages).1 = .ok 0x63 ∧
      (word Machine.engine 0x1ffe 4 twoPages).1 = .ok 0x636261 ∧
      (word Machine.engine 0x2ffe 4 twoPages).1 = .error (.memoryRead 0x2ffe 4) := by
  have hname : ArchName.ofEngine twoPages.arch.name = .ok .x8664 := by rfl
  have hpresents := twoPages.presents hname rfl
  have hx : (word Machine.engine 0x1ffe 2 twoPages).1 = .ok 0x6261 := by rfl
  have hy : (word Machine.engine 0x2000 2 twoPages).1 = .ok 0x63 := by rfl
  obtain ⟨hiff, hvalue⟩ :=
    (word_of_halves hpresents 0x1ffe).1 4 (by decide) (by decide) _ _ _ rfl rfl rfl
  obtain ⟨w, hw⟩ := hiff.2 ⟨⟨_, hx⟩, _, hy⟩
  have hnone := ((word_of_halves hpresents 0x2ffe).2.1 4 (by decide) (by decide) _ _ rfl rfl).1
  refine ⟨hx, hy, ?_, hnone ⟨0x3000, by decide, by decide, by decide +kernel⟩⟩
  have hsum : w = 0x636261 := UInt64.toNat_inj.1 (hvalue w _ _ hw hx hy)
  rw [hw, hsum]

end Memory

end Debuggee
