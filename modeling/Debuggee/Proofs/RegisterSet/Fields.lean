import Debuggee.Arch.Registers
import Mathlib.Algebra.Order.Ring.Nat

namespace Debuggee

theorem add_eq_lor_of_land_eq_zero {m n : Nat} (h : m &&& n = 0) : m + n = m ||| n := by
  have hm : m < 2 ^ (m + n) := Nat.lt_of_le_of_lt (Nat.le_add_right m n) Nat.lt_two_pow_self
  have hn : n < 2 ^ (m + n) := Nat.lt_of_le_of_lt (Nat.le_add_left n m) Nat.lt_two_pow_self
  have hbits : BitVec.ofNat (m + n) m &&& BitVec.ofNat (m + n) n = 0#(m + n) := by
    rw [← BitVec.ofNat_and, h]
  have hsum := congrArg BitVec.toNat (BitVec.add_eq_or_of_and_eq_zero _ _ hbits)
  rwa [BitVec.toNat_add, BitVec.toNat_or, BitVec.toNat_ofNat, BitVec.toNat_ofNat,
    Nat.mod_eq_of_lt hm, Nat.mod_eq_of_lt hn, Nat.mod_eq_of_lt Nat.lt_two_pow_self] at hsum

def Agree (covers : Nat → Prop) (v v' : UInt64) : Prop :=
  ∀ i, covers i → v.toNat.testBit i = v'.toNat.testBit i

namespace Flag

def Covers (f : Flag) (i : Nat) : Prop := f.bit ≤ i ∧ i < f.bit + f.width

instance (f : Flag) (i : Nat) : Decidable (f.Covers i) := inferInstanceAs (Decidable (_ ∧ _))

def Fits (f : Flag) : Prop := f.bit < 64 ∧ f.bit + f.width ≤ 64

instance (f : Flag) : Decidable f.Fits := inferInstanceAs (Decidable (_ ∧ _))

def Disjoint (f g : Flag) : Prop := ∀ i, f.Covers i → ¬g.Covers i

instance (f g : Flag) : Decidable (f.Disjoint g) :=
  decidable_of_iff (∀ i < f.bit + f.width, f.Covers i → ¬g.Covers i)
    ⟨fun h i hi => h i hi.2 hi, fun h i _ => h i⟩

def inPlace (f : Flag) : UInt64 := f.mask <<< .ofNat f.bit

variable {f g : Flag}

theorem toNat_mask (f : Flag) : f.mask.toNat = 2 ^ min f.width 64 - 1 := by
  unfold mask
  split
  · next hle =>
    rw [Nat.min_eq_right hle]
    rfl
  · next hlt =>
    have hpow : 2 ^ f.width ≤ 2 ^ 64 := Nat.pow_le_pow_right (by decide) (by omega)
    have hpos : 0 < 2 ^ f.width := Nat.two_pow_pos f.width
    rw [Nat.min_eq_left (by omega), Nat.one_shiftLeft]
    exact UInt64.toNat_ofNat_of_lt' (show _ < 2 ^ 64 by omega)

theorem toNat_ofNat_bit (hf : f.bit < 64) : (UInt64.ofNat f.bit).toNat % 64 = f.bit := by
  rw [UInt64.toNat_ofNat_of_lt' (show _ < 2 ^ 64 by omega), Nat.mod_eq_of_lt hf]

theorem toNat_extract (hf : f.bit < 64) (value : UInt64) :
    (f.extract value).toNat = value.toNat / 2 ^ f.bit % 2 ^ f.width := by
  have hvalue : value.toNat / 2 ^ f.bit < 2 ^ 64 :=
    Nat.lt_of_le_of_lt (Nat.div_le_self ..) value.toNat_lt
  rw [extract, UInt64.toNat_and, UInt64.toNat_shiftRight, toNat_ofNat_bit hf, toNat_mask,
    Nat.shiftRight_eq_div_pow, Nat.and_two_pow_sub_one_eq_mod]
  by_cases hwidth : f.width ≤ 64
  · rw [Nat.min_eq_left hwidth]
  · have hpow : 2 ^ 64 ≤ 2 ^ f.width := Nat.pow_le_pow_right (by decide) (by omega)
    rw [Nat.min_eq_right (by omega), Nat.mod_eq_of_lt hvalue, Nat.mod_eq_of_lt (by omega)]

theorem testBit_extract (hf : f.bit < 64) (value : UInt64) (i : Nat) :
    (f.extract value).toNat.testBit i =
      (decide (i < f.width) && value.toNat.testBit (i + f.bit)) := by
  rw [toNat_extract hf, Nat.testBit_mod_two_pow, Nat.testBit_div_two_pow]

theorem testBit_inPlace (hf : f.Fits) (i : Nat) :
    f.inPlace.toNat.testBit i = decide (f.Covers i) := by
  obtain ⟨hbit, hwidth⟩ := hf
  rw [inPlace, UInt64.toNat_shiftLeft, toNat_ofNat_bit hbit, toNat_mask,
    Nat.min_eq_left (by omega), Nat.testBit_mod_two_pow, Nat.testBit_shiftLeft,
    Nat.testBit_two_pow_sub_one, Bool.eq_iff_iff]
  simp only [Bool.and_eq_true, decide_eq_true_eq]
  unfold Covers
  omega

theorem extract_eq_iff (hf : f.bit < 64) {v v' : UInt64} :
    f.extract v = f.extract v' ↔ Agree f.Covers v v' := by
  rw [← UInt64.toNat_inj]
  constructor
  · intro h i hcovers
    have hle := hcovers.1
    have hlt := hcovers.2
    have hi := congrArg (·.testBit (i - f.bit)) h
    simp only [testBit_extract hf, Nat.sub_add_cancel hle] at hi
    simpa [show i - f.bit < f.width by omega] using hi
  · intro h
    refine Nat.eq_of_testBit_eq fun i => ?_
    rw [testBit_extract hf, testBit_extract hf]
    by_cases hi : i < f.width
    · rw [h (i + f.bit) ⟨Nat.le_add_left .., by omega⟩]
    · rw [decide_eq_false hi, Bool.false_and, Bool.false_and]

theorem toNat_extract_mul (hf : f.Fits) (value : UInt64) :
    (f.extract value).toNat * 2 ^ f.bit = (value &&& f.inPlace).toNat := by
  refine Nat.eq_of_testBit_eq fun i => ?_
  rw [Nat.mul_comm, Nat.testBit_two_pow_mul, testBit_extract hf.1, UInt64.toNat_and,
    Nat.testBit_and, testBit_inPlace hf, Bool.eq_iff_iff]
  simp only [Bool.and_eq_true, decide_eq_true_eq]
  constructor
  · rintro ⟨hle, hlt, hi⟩
    rw [Nat.sub_add_cancel hle] at hi
    exact ⟨hi, hle, by omega⟩
  · rintro ⟨hi, hle, hlt⟩
    rw [Nat.sub_add_cancel hle]
    exact ⟨hle, by omega, hi⟩

end Flag

namespace FlagLayout

/-- Every field lies in a word, and no two share a bit. -/
structure IsProper (layout : FlagLayout) : Prop where
  fits : ∀ f ∈ layout, f.Fits
  disjoint : layout.Pairwise Flag.Disjoint

instance (layout : FlagLayout) : Decidable layout.IsProper :=
  decidable_of_iff ((∀ f ∈ layout, f.Fits) ∧ layout.Pairwise Flag.Disjoint)
    ⟨fun h => ⟨h.1, h.2⟩, fun h => ⟨h.fits, h.disjoint⟩⟩

def Covers (layout : FlagLayout) (i : Nat) : Prop := ∃ f ∈ layout, f.Covers i

instance (layout : FlagLayout) (i : Nat) : Decidable (layout.Covers i) :=
  inferInstanceAs (Decidable (∃ _ ∈ _, _))

def covered : FlagLayout → UInt64
  | [] => 0
  | f :: layout => f.inPlace ||| covered layout

def assemble (layout : FlagLayout) (fields : List (String × UInt64)) : Nat :=
  (layout.zipWith (fun f field => field.2.toNat * 2 ^ f.bit) fields).sum

variable {layout : FlagLayout}

theorem testBit_covered (h : ∀ f ∈ layout, f.Fits) (i : Nat) :
    (covered layout).toNat.testBit i = decide (layout.Covers i) := by
  induction layout with
  | nil => simp [covered, Covers]
  | cons f layout ih =>
    obtain ⟨hf, hlayout⟩ := List.forall_mem_cons.1 h
    rw [covered, UInt64.toNat_or, Nat.testBit_or, Flag.testBit_inPlace hf, ih hlayout,
      Bool.eq_iff_iff, Bool.or_eq_true, decide_eq_true_eq, decide_eq_true_eq, decide_eq_true_eq]
    simp only [Covers, List.mem_cons, or_and_right, exists_or, exists_eq_left]

theorem IsProper.assemble_decode (h : layout.IsProper) (value : UInt64) :
    layout.assemble (layout.decode value) = (value &&& layout.covered).toNat := by
  induction layout with
  | nil => simp [assemble, covered]
  | cons f layout ih =>
    obtain ⟨hf, hfits⟩ := List.forall_mem_cons.1 h.fits
    obtain ⟨hapart, hdisjoint⟩ := List.pairwise_cons.1 h.disjoint
    -- The first field shares no bit with the others, so that the sum carries nothing over.
    have hnone : (value &&& f.inPlace).toNat &&& (value &&& covered layout).toNat = 0 := by
      refine Nat.eq_of_testBit_eq fun i => ?_
      rw [Nat.testBit_and, UInt64.toNat_and, UInt64.toNat_and, Nat.testBit_and, Nat.testBit_and,
        Flag.testBit_inPlace hf, testBit_covered hfits, Nat.zero_testBit]
      by_cases hi : f.Covers i
      · have hother : ¬Covers layout i := fun ⟨g, hg, hgi⟩ => hapart g hg i hi hgi
        simp [hother]
      · simp [hi]
    calc assemble (f :: layout) (decode (f :: layout) value)
      _ = (f.extract value).toNat * 2 ^ f.bit + assemble layout (decode layout value) := rfl
      _ = (value &&& f.inPlace).toNat + (value &&& covered layout).toNat := by
        rw [Flag.toNat_extract_mul hf, ih ⟨hfits, hdisjoint⟩]
      _ = (value &&& f.inPlace).toNat ||| (value &&& covered layout).toNat :=
        add_eq_lor_of_land_eq_zero hnone
      _ = (value &&& covered (f :: layout)).toNat := by
        rw [covered, UInt64.toNat_and, UInt64.toNat_and, UInt64.toNat_and, UInt64.toNat_or,
          Nat.and_or_distrib_left]

theorem decode_eq_iff_extract {v v' : UInt64} :
    layout.decode v = layout.decode v' ↔ ∀ f ∈ layout, f.extract v = f.extract v' := by
  rw [decode, decode, List.map_inj_left]
  exact forall₂_congr fun f _ => ⟨congrArg Prod.snd, congrArg _⟩

theorem IsProper.decode_eq_iff (h : layout.IsProper) {v v' : UInt64} :
    layout.decode v = layout.decode v' ↔ Agree layout.Covers v v' := by
  rw [decode_eq_iff_extract]
  constructor
  · rintro hall i ⟨f, hf, hi⟩
    exact (Flag.extract_eq_iff (h.fits f hf).1).1 (hall f hf) i hi
  · exact fun hall f hf => (Flag.extract_eq_iff (h.fits f hf).1).2 fun i hi => hall i ⟨f, hf, hi⟩

theorem IsProper.decode_elsewhere (h : layout.IsProper) {i j : Nat} {f : Flag} {v v' : UInt64}
    (hf : layout[j]? = some f) (hagree : Agree (¬f.Covers ·) v v') (hij : i ≠ j) :
    (layout.decode v)[i]? = (layout.decode v')[i]? := by
  obtain ⟨hj, hf⟩ := List.getElem?_eq_some_iff.1 hf
  rw [decode, decode, List.getElem?_map, List.getElem?_map]
  cases hg : layout[i]? with
  | none => rfl
  | some g =>
    obtain ⟨hi, hg⟩ := List.getElem?_eq_some_iff.1 hg
    have hapart : ∀ b, g.Covers b → ¬f.Covers b := by
      rcases Nat.lt_or_gt_of_ne hij with hlt | hgt
      · have hdisjoint := List.pairwise_iff_getElem.1 h.disjoint i j hi hj hlt
        rwa [hg, hf] at hdisjoint
      · have hdisjoint := List.pairwise_iff_getElem.1 h.disjoint j i hj hi hgt
        rw [hg, hf] at hdisjoint
        exact fun b hgb hfb => hdisjoint b hfb hgb
    have hfits : g.Fits := h.fits g (hg ▸ List.getElem_mem hi)
    have hread : g.extract v = g.extract v' :=
      (Flag.extract_eq_iff hfits.1).2 fun b hb => hagree b (hapart b hb)
    rw [Option.map_some, Option.map_some, hread]

theorem toNat_decode (h : ∀ f ∈ layout, f.Fits) (value : UInt64) :
    (layout.decode value).map (fun field => (field.1, field.2.toNat)) =
      layout.map fun f => (f.name, value.toNat / 2 ^ f.bit % 2 ^ f.width) := by
  rw [decode, List.map_map, List.map_inj_left]
  exact fun f hf => congrArg (Prod.mk f.name) (Flag.toNat_extract (h f hf).1 value)

/--
Every field is the number that its bits make up, and the fields, put back where they lie, sum up to
the value without the bits that no field covers. So two values have the same fields if and only if
they agree wherever a field is, and a change inside one field leaves all others as they are.
-/
theorem IsProper.decode_exact (h : layout.IsProper) :
    (∀ value, (layout.decode value).map (fun field => (field.1, field.2.toNat)) =
      layout.map fun f => (f.name, value.toNat / 2 ^ f.bit % 2 ^ f.width)) ∧
    (∀ i, layout.covered.toNat.testBit i = decide (layout.Covers i)) ∧
    (∀ value, layout.assemble (layout.decode value) = (value &&& layout.covered).toNat) ∧
    (∀ v v', layout.decode v = layout.decode v' ↔ Agree layout.Covers v v') ∧
    ∀ (j : Nat) (f : Flag) (v v' : UInt64), layout[j]? = some f → Agree (¬f.Covers ·) v v' →
      ∀ i, i ≠ j → (layout.decode v)[i]? = (layout.decode v')[i]? :=
  ⟨toNat_decode h.fits, testBit_covered h.fits, h.assemble_decode, fun _ _ => h.decode_eq_iff,
    fun _ _ _ _ hf hagree _ hij => h.decode_elsewhere hf hagree hij⟩

theorem decode_aarch64_exact :
    aarch64.IsProper ∧
    aarch64.assemble (aarch64.decode 0x4000000A) = 0x40000008 ∧
    Agree aarch64.Covers 0x4000000A 0x40000008 ∧
    ∀ i, i ≠ 11 → (aarch64.decode 0x40000008)[i]? = (aarch64.decode 0x4000000C)[i]? := by
  have h : aarch64.IsProper := by decide
  obtain ⟨-, -, hassemble, hiff, helsewhere⟩ := h.decode_exact
  refine ⟨h, (hassemble _).trans (by decide), (hiff _ _).1 (by decide),
    helsewhere 11 ⟨"EL", 2, 2⟩ _ _ rfl fun i hi => ?_⟩
  by_cases hlt : i < 64
  · revert hi
    revert i
    decide
  · -- No value has a bit beyond its word.
    have hword : ∀ v : UInt64, v.toNat.testBit i = false := fun v =>
      Nat.testBit_lt_two_pow (Nat.lt_of_lt_of_le v.toNat_lt
        (Nat.pow_le_pow_right (by decide) (Nat.le_of_not_lt hlt)))
    rw [hword, hword]

example : decode [⟨"low", 0, 1⟩, ⟨"high", 32, 32⟩] 0x8000000100000001 =
    [("low", 1), ("high", 0x80000001)] := by decide

/-- No register set has a flag register whose fields share a bit. -/
theorem isProper_registers (a : ArchName) :
    ∀ entry ∈ a.registers.flags ++ a.registers.extraFlags, entry.2.IsProper := by
  cases a <;> decide

end FlagLayout

end Debuggee
