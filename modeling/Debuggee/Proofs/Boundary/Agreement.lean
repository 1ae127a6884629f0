import Debuggee.Proofs.Boundary.StackTop
import Debuggee.Proofs.Memory.Prefix

namespace Debuggee

variable {σ ν τ : Type}

theorem leadingCount_eq_iff {ok : Nat → Bool} {max n : Nat} (h : ∀ j < n, ok j) :
    leadingCount ok max = n ↔ n ≤ max ∧ (n = max ∨ ok n = false) := by
  constructor
  · rintro rfl
    have hle : leadingCount ok max ≤ max := Nat.findGreatest_le _
    refine ⟨hle, Classical.or_iff_not_imp_left.2 fun hne => ?_⟩
    rw [← Bool.not_eq_true]
    intro hok
    refine Nat.not_succ_le_self _ (le_leadingCount (Nat.lt_of_le_of_ne hle hne) fun j hj => ?_)
    rcases Nat.lt_succ_iff_lt_or_eq.1 hj with hlt | rfl
    · exact h j hlt
    · exact hok
  · rintro ⟨hle, rfl | hstop⟩
    · exact Nat.le_antisymm (Nat.findGreatest_le _) (le_leadingCount hle h)
    · rw [leadingCount_eq_min h (by rw [hstop]; exact Bool.false_ne_true), Nat.min_eq_left hle]

namespace Boundary

theorem endAbove_eq_iff {a : Address} {mask : UInt64} (ha : a.page = a)
    (hmask : mask.toNat % Address.pageSize ≠ 0) (k n : Nat) :
    endAbove a mask k = a.toNat + n * Address.pageSize ↔
      k = n ∧ (n = 0 ∨ a.toNat + n * Address.pageSize ≤ mask.toNat) := by
  rw [Address.page_eq_self_iff] at ha
  unfold endAbove Address.pageSize at *
  split
  · omega
  · split <;> omega

theorem exists_pages {a top : Address} (ha : a.page = a) (htop : top.page = top) (hle : a ≤ top) :
    ∃ n, a.toNat + n * Address.pageSize = top.toNat := by
  rw [Address.page_eq_self_iff] at ha htop
  rw [UInt64.le_iff_toNat_le] at hle
  refine ⟨(top.toNat - a.toNat) / Address.pageSize, ?_⟩
  unfold Address.pageSize at *
  omega

theorem exists_readableAbove {a top : Address} (bytes? : Address → Option Bytes) (ha : a.page = a)
    {j n : Nat} (hn : a.toNat + n * Address.pageSize = top.toNat) (hj : j ≤ n) :
    ∃ q : Address, q.toNat = a.toNat + j * Address.pageSize ∧ q.page = q ∧
      readableAbove bytes? a j = (bytes? q).isSome := by
  cases hq : a.add? (j * Address.pageSize) with
  | some q =>
    exact ⟨q, Address.toNat_of_add? hq, Address.page_of_add? hq ha (Nat.mul_mod_left ..),
      by rw [readableAbove, hq, Option.any_some]⟩
  | none =>
    have hjn := Nat.mul_le_mul_right Address.pageSize hj
    have hlt : top.toNat < UInt64.size := top.toNat_lt
    have hoverflow := Address.add?_eq_none_iff.1 hq
    omega

variable {E : Engine σ ν τ} {i : Inferior} {s : σ}

theorem shows_still (hE : E.IsStill) (i : Inferior) (size : Nat) (s : σ) :
    Shows (E.readMemory i · size) (fun a => (E.readMemory i a size s).1.toOption) (· = s) where
  toOption hs a := by rw [hs]
  steady hs a := by rw [hs]; exact hE.readMemory i a size s

variable {memory : Nat → Option UInt8}

theorem isSome_readMemory (h : E.Serves i memory (· = s)) {a : Address} {size : Nat}
    (hfit : a.toNat + size ≤ UInt64.size) :
    (E.readMemory i a size s).1.toOption.isSome ↔
      ∃ bytes, Holds memory (List.range' a.toNat size) bytes := by
  rw [Option.isSome_iff_exists]
  refine exists_congr fun bytes => ?_
  rw [← h.readMemory rfl hfit]
  cases (E.readMemory i a size s).1 <;> simp [Except.toOption]

theorem isSome_readMemory_one (h : E.Serves i memory (· = s)) (a : Address) :
    (E.readMemory i a 1 s).1.toOption.isSome ↔ memory a.toNat ≠ none := by
  rw [isSome_readMemory h a.toNat_lt]
  constructor
  · rintro ⟨bytes, hbytes⟩
    exact hbytes.ne_none (List.mem_singleton_self _)
  · intro hb
    exact Holds.exists_of_ne_none fun c hc => by rwa [List.mem_singleton.1 hc]

theorem memory_ne_none_of_lt_stackTop (hE : E.IsStill) (h : E.Serves i memory (· = s))
    (hi : E.selectedInferior s = some i) (a : Address) {q : Address} (hq : q.page = q)
    (hle : a.page ≤ q) (hlt : q < (stackTop E a s).1) : memory q.toNat ≠ none := by
  have hshows : Shows (Memory.read E · imageStart.length) _ (· = s) :=
    (shows_still hE i imageStart.length s).memory_read fun t ht => by rw [ht, hi]
  obtain ⟨bytes, hbytes, -⟩ := ((stackTop_isLeast E a s).2 _ _ hshows rfl).2.2 q hq hle hlt
  have hfit : q.toNat + imageStart.length ≤ UInt64.size := by
    have := UInt64.le_iff_toNat_le.1 (le_lastPage hq)
    exact Nat.le_trans (Nat.add_le_add_right this 4) (by decide)
  obtain ⟨bytes', hholds⟩ := (isSome_readMemory h hfit).1 (by rw [hbytes]; rfl)
  exact hholds.ne_none (List.mem_range'_1.2 ⟨Nat.le_refl _, Nat.lt_add_of_pos_right (by decide)⟩)

/--
The search for the end of readable memory ends at the top of the stack if, and only if, the budget
covers the stack, what follows is not readable or beyond the budget, and no address of the stack is
beyond what a pointer can hold.
-/
theorem findUpper_eq_stackTop_iff (hE : E.IsStill) (h : E.Serves i memory (· = s))
    (hi : E.selectedInferior s = some i)
    (hmask : (ceiling E i s).toNat % Address.pageSize ≠ 0) (a : Address) (max : Nat) :
    let top := (stackTop E a s).1
    (findUpper E a max s).1 = top ↔
      top.toNat ≤ a.page.toNat + max * Address.pageSize ∧
        (top.toNat = a.page.toNat + max * Address.pageSize ∨ memory top.toNat = none) ∧
          (top = a.page ∨ top ≤ ceiling E i s) := by
  intro top
  let bytes? : Address → Option Bytes := fun a => (E.readMemory i a 1 s).1.toOption
  obtain ⟨n, hn⟩ : ∃ n, a.page.toNat + n * Address.pageSize = top.toNat :=
    exists_pages a.page_page (page_stackTop E a s) (page_le_stackTop E a s)
  have hreadable : ∀ j < n, readableAbove bytes? a.page j := by
    intro j hj
    obtain ⟨q, hq, hqpage, hread⟩ := exists_readableAbove bytes? a.page_page hn (Nat.le_of_lt hj)
    rw [hread]
    refine (isSome_readMemory_one h q).2 (memory_ne_none_of_lt_stackTop hE h hi a hqpage ?_ ?_)
    · rw [UInt64.le_iff_toNat_le]
      omega
    · have hlt := Nat.mul_lt_mul_of_pos_right hj (show 0 < Address.pageSize by decide)
      exact UInt64.lt_iff_toNat_lt.2 (show q.toNat < top.toNat by omega)
  have hstop : readableAbove bytes? a.page n = false ↔ memory top.toNat = none := by
    obtain ⟨q, hq, -, hread⟩ := exists_readableAbove bytes? a.page_page hn (Nat.le_refl n)
    obtain rfl : q = top := UInt64.toNat_inj.1 (hq.trans hn)
    rw [hread, ← Bool.not_eq_true, isSome_readMemory_one h, not_not]
  have hupper : (findUpper E a max s).1.toNat = endAbove a.page (ceiling E i s)
      (leadingCount (readableAbove bytes? a.page) max) := by
    rw [findUpper_apply hi, hE.snd_archOf]
    exact toNat_climb (shows_still hE i 1 s) rfl _ max a.page
  rw [← UInt64.toNat_inj, hupper, ← hn, endAbove_eq_iff a.page_page hmask,
    leadingCount_eq_iff hreadable, hstop, hn]
  have hle_iff : n ≤ max ↔ top.toNat ≤ a.page.toNat + max * Address.pageSize := by
    unfold Address.pageSize at *
    omega
  have heq_iff : n = max ↔ top.toNat = a.page.toNat + max * Address.pageSize := by
    unfold Address.pageSize at *
    omega
  have hzero_iff : n = 0 ↔ top = a.page := by
    rw [← UInt64.toNat_inj]
    unfold Address.pageSize at *
    omega
  rw [hle_iff, heq_iff, hzero_iff, UInt64.le_iff_toNat_le, and_assoc]

end Boundary

end Debuggee
