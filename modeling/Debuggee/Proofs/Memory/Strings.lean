import Debuggee.Proofs.Memory.LeadingRun
import Mathlib.Data.List.TakeWhile
import Mathlib.Data.Set.Basic
import Mathlib.Order.Bounds.Defs

namespace Debuggee

variable {σ ν τ : Type}

namespace Holds

variable {memory : Nat → Option UInt8} {addresses : List Nat} {bytes bytes' : Bytes}

theorem unique (h : Holds memory addresses bytes) (h' : Holds memory addresses bytes') :
    bytes' = bytes := (List.map_inj_right fun _ _ => Option.some.inj).1 (h'.symm.trans h)

theorem take (h : Holds memory addresses bytes) (n : Nat) :
    Holds memory (addresses.take n) (bytes.take n) := by
  unfold Holds
  rw [List.map_take, List.map_take, h]

end Holds

/-- A string ends at a zero, at a byte that cannot be read, and at the bound. -/
def stringEnds (memory : Nat → Option UInt8) (a max : Nat) : Set Nat :=
  {c | a ≤ c ∧ (memory c = some 0 ∨ memory c = none ∨ c = a + max)}

def isText (memory : Nat → Option UInt8) (c : Nat) : Bool := (memory c).any (· ≠ 0)

def textRun (memory : Nat → Option UInt8) (a max : Nat) : List Nat :=
  (List.range' a max).takeWhile (isText memory)

section

variable {memory : Nat → Option UInt8} {a max : Nat}

theorem isText_iff {c : Nat} : isText memory c ↔ ¬ (memory c = some 0 ∨ memory c = none) := by
  unfold isText
  cases memory c <;> simp

theorem textRun_eq_range' (memory : Nat → Option UInt8) (a max : Nat) :
    ∃ stop, IsLeast (stringEnds memory a max) stop ∧
      textRun memory a max = List.range' a (stop - a) := by
  induction max generalizing a with
  | zero =>
    refine ⟨a, ⟨⟨Nat.le_refl a, .inr (.inr rfl)⟩, fun c hc => hc.1⟩, ?_⟩
    rw [Nat.sub_self]
    rfl
  | succ max ih =>
    by_cases htext : isText memory a
    · obtain ⟨stop, ⟨⟨hle, hends⟩, hleast⟩, hrun⟩ := ih (a := a + 1)
      refine ⟨stop, ⟨⟨by omega, by rwa [Nat.add_right_comm] at hends⟩, fun c hc => ?_⟩, ?_⟩
      · -- the string does not end where it begins
        have hne : c ≠ a := by
          rintro rfl
          have hbegins := isText_iff.1 htext
          rcases hc.2 with h | h | h
          · exact hbegins (.inl h)
          · exact hbegins (.inr h)
          · omega
        exact hleast ⟨by have := hc.1; omega, by rw [Nat.add_right_comm]; exact hc.2⟩
      · have hsize : stop - a = stop - (a + 1) + 1 := by omega
        rw [textRun, List.range'_succ, List.takeWhile_cons_of_pos htext, hsize, List.range'_succ]
        exact congrArg _ hrun
    · have hends : memory a = some 0 ∨ memory a = none :=
        Classical.not_not.1 fun h => htext (isText_iff.2 h)
      refine ⟨a, ⟨⟨Nat.le_refl a, by tauto⟩, fun c hc => hc.1⟩, ?_⟩
      rw [textRun, List.range'_succ, List.takeWhile_cons_of_neg htext, Nat.sub_self]
      rfl

theorem take_textRun {fewer : Nat} (h : fewer ≤ max) :
    (textRun memory a max).take fewer = textRun memory a fewer := by
  rw [textRun, List.take_takeWhile, List.take_range'_of_length_ge h]
  rfl

theorem textRun_of_zero {stop : Nat} (htext : ∀ c, a ≤ c → c < stop → isText memory c)
    (hzero : memory stop = some 0) (hle : a ≤ stop) (max : Nat) :
    textRun memory a max = List.range' a (min max (stop - a)) := by
  obtain ⟨last, ⟨⟨hge, hends⟩, hleast⟩, hrun⟩ := textRun_eq_range' memory a max
  have hmax : last ≤ a + max := hleast ⟨Nat.le_add_right .., .inr (.inr rfl)⟩
  have hstop : last ≤ stop := hleast ⟨hle, .inl hzero⟩
  rw [hrun]
  congr 1
  rcases Nat.lt_or_ge last stop with hlt | hge'
  · have hbound : last = a + max := by
      have hread := isText_iff.1 (htext last hge hlt)
      tauto
    omega
  · omega

theorem Holds.takeWhile {addresses : List Nat} {bytes : Bytes}
    (h : Holds memory (readableRun memory addresses) bytes) :
    Holds memory (addresses.takeWhile (isText memory)) (bytes.takeWhile (· ≠ 0)) := by
  have hrun : addresses.takeWhile (isText memory) =
      (readableRun memory addresses).takeWhile ((·.any (· ≠ 0)) ∘ memory) := by
    rw [readableRun, List.takeWhile_takeWhile]
    congr 1
    funext c
    cases hc : memory c <;> simp [isText, hc]
  rw [hrun, Holds, ← List.takeWhile_map, h, List.takeWhile_map]
  rfl

end

namespace Memory

variable {E : Engine σ ν τ} {i : Inferior} {memory : Nat → Option UInt8} {Steady : σ → Prop}
  {s : σ}

theorem holds_string_beforeLast (h : E.Serves i memory Steady)
    (hi : ∀ s, Steady s → E.selectedInferior s = some i) (hpaged : Paged memory) (hs : Steady s)
    (a : Address) (max : Nat) :
    Holds memory
      (textRun memory a.toNat (min (a.toNat + max) (UInt64.size - 1) - a.toNat))
      (string E a max s).1 := by
  cases hb : memory a.toNat with
  | none =>
    have hrun (size : Nat) : textRun memory a.toNat size = [] := by
      cases size with
      | zero => rfl
      | succ size =>
        exact List.takeWhile_cons_of_neg (by simp [isText, hb])
    rw [fst_string_of_none h hi hs hb, hrun]
    rfl
  | some b =>
    obtain ⟨s', hs', hstring⟩ := fst_string h hi hs hb max
    rw [hstring]
    exact (h.holds_readPrefix hs' hpaged a max).takeWhile

theorem holds_string (h : E.Serves i memory Steady)
    (hi : ∀ s, Steady s → E.selectedInferior s = some i) (hpaged : Paged memory) (hs : Steady s)
    {a : Address} {max : Nat} (hmax : a.toNat + max < UInt64.size) :
    Holds memory (textRun memory a.toNat max) (string E a max s).1 := by
  have hholds := holds_string_beforeLast h hi hpaged hs a max
  rwa [Nat.min_eq_left (by omega), Nat.add_sub_cancel_left] at hholds

end Memory

end Debuggee
